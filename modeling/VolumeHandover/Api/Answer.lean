import VolumeHandover.Api.Http
import VolumeHandover.Error
import VolumeHandover.Object.Meta

set_option autoImplicit false

/-! # What answers say

An answer whose status says that the request failed is a refusal, which its body describes; a
body that describes none is quoted. Any other answer has to carry what was asked for: an
object, or after a deletion the object that is gone or a report that it is.
-/

namespace VolumeHandover

/-! ## Refusals -/

def Refusal.format : Format Refusal :=
  .form .skipped (mk <$> .required "status" .text <*> .ifThere "message" .text "" <*>
    .ifThere "reason" .text "" <*> .required "code" (.below 65536))

/-- The refusal in an answer with a failure status. -/
def HttpAnswer.refusal (a : HttpAnswer) : Refusal :=
  (Refusal.format.read? a.body).getD {
    status := statusText a.status
    message := quoted a.body
    reason := "Failed to parse error data"
    code := a.status }

/-! ## Contents -/

def HttpAnswer.content {α : Type} (a : HttpAnswer) (read? : String → Option α) :
    Except ApiFault α :=
  if isFailureStatus a.status then .error (.refused a.refusal)
  else match read? a.body with
    | some value => .ok value
    | none => .error .unreadable

/-! ## Reports -/

def refusalCause : Format Unit :=
  .form .skipped ((fun _ _ _ => ()) <$> .ifThere "reason" .text "" <*>
    .ifThere "message" .text "" <*> .ifThere "field" .text "")

def reportDetails : Format Unit :=
  .form .skipped ((fun _ _ _ _ _ _ => ()) <$> .ifThere "name" .text "" <*>
    .ifThere "group" .text "" <*> .ifThere "kind" .text "" <*> .ifThere "uid" .text "" <*>
    .ifThere "causes" (.list refusalCause) [] <*>
    .ifThere "retryAfterSeconds" (.below (Nat.pow 2 32)) 0)

/-- How a report on what became of a request is read. -/
def report : Format Unit :=
  .form .skipped ((fun _ _ _ _ _ => ()) <$>
    .optional "status" (.choice ["Success", "Failure"]) <*> .ifThere "code" (.below 65536) 0 <*>
    .ifThere "message" .text "" <*> .ifThere "reason" .text "" <*>
    .optional "details" reportDetails)

/-- Read the answer to a deletion: a report, or else the object that is gone. -/
def deletion? (α : Type) [StoredKind α] (body : String) : Option Unit := do
  let j ← Json.read? body
  if (j.get? "kind").bind Json.asText = some "Status" then report.read? body
  else ((StoredKind.format (α := α)).read? body).map fun _ => ()

end VolumeHandover
