set_option autoImplicit false

/-! # Requests and answers

The requests that an API server understands and the answers it gives. An address may hold only
certain characters; what stands behind a number sign in it is not sent.

A `Connection` is a server in some state together with the requests it has received. A server
need not answer.
-/

namespace VolumeHandover

/-! ## Requests -/

inductive HttpMethod where
  | get | post | patch | delete
deriving DecidableEq, Inhabited, Repr

def HttpMethod.name : HttpMethod → String
  | .get => "GET"
  | .post => "POST"
  | .patch => "PATCH"
  | .delete => "DELETE"

structure HttpRequest where
  method : HttpMethod
  /-- The path with the query. -/
  target : String
  contentType : Option String := none
  body : Option String := none
deriving Inhabited

def isPathChar (c : Char) : Bool :=
  let n := c.toNat
  n = 0x21 || n = 0x22 || 0x24 ≤ n && n ≤ 0x3b || n = 0x3d || 0x40 ≤ n && n ≤ 0x5f ||
    0x61 ≤ n && n ≤ 0x7e

def isQueryChar (c : Char) : Bool :=
  let n := c.toNat
  n = 0x21 || 0x24 ≤ n && n ≤ 0x3b || n = 0x3d || 0x3f ≤ n && n ≤ 0x7e

/-- The characters of an address up to the first number sign, if all of them are allowed. A
query begins behind the first question mark. -/
def addressChars (inQuery : Bool) : List Char → Option (List Char)
  | [] => some []
  | c :: rest =>
      if c = '#' then some []
      else if c = '?' then (addressChars true rest).map (c :: ·)
      else if (if inQuery then isQueryChar c else isPathChar c) then
        (addressChars inQuery rest).map (c :: ·)
      else none

/-- The request with its address as it is sent, if the address is allowed. -/
def HttpRequest.addressed? (r : HttpRequest) : Option HttpRequest :=
  (addressChars false r.target.toList).map fun target => { r with target := String.ofList target }

/-! ## Answers -/

structure HttpAnswer where
  status : Nat := 200
  body : String := ""
  /-- The body goes on, but nothing more of it ever comes. -/
  unfinished : Bool := false
deriving DecidableEq, Inhabited, Repr

/-- The usual words for a status that says that a request failed. -/
def reasonPhrase? : Nat → Option String
  | 400 => some "Bad Request"
  | 401 => some "Unauthorized"
  | 402 => some "Payment Required"
  | 403 => some "Forbidden"
  | 404 => some "Not Found"
  | 405 => some "Method Not Allowed"
  | 406 => some "Not Acceptable"
  | 407 => some "Proxy Authentication Required"
  | 408 => some "Request Timeout"
  | 409 => some "Conflict"
  | 410 => some "Gone"
  | 411 => some "Length Required"
  | 412 => some "Precondition Failed"
  | 413 => some "Payload Too Large"
  | 414 => some "URI Too Long"
  | 415 => some "Unsupported Media Type"
  | 416 => some "Range Not Satisfiable"
  | 417 => some "Expectation Failed"
  | 418 => some "I'm a teapot"
  | 421 => some "Misdirected Request"
  | 422 => some "Unprocessable Entity"
  | 423 => some "Locked"
  | 424 => some "Failed Dependency"
  | 426 => some "Upgrade Required"
  | 428 => some "Precondition Required"
  | 429 => some "Too Many Requests"
  | 431 => some "Request Header Fields Too Large"
  | 451 => some "Unavailable For Legal Reasons"
  | 500 => some "Internal Server Error"
  | 501 => some "Not Implemented"
  | 502 => some "Bad Gateway"
  | 503 => some "Service Unavailable"
  | 504 => some "Gateway Timeout"
  | 505 => some "HTTP Version Not Supported"
  | 506 => some "Variant Also Negotiates"
  | 507 => some "Insufficient Storage"
  | 508 => some "Loop Detected"
  | 510 => some "Not Extended"
  | 511 => some "Network Authentication Required"
  | _ => none

def statusText (status : Nat) : String :=
  toString status ++ " " ++ (reasonPhrase? status).getD "<unknown status code>"

def isFailureStatus (status : Nat) : Bool := 400 ≤ status && status < 600

/-! ## Connections -/

/-- A server in some state, and the requests it has received. -/
structure Connection (σ : Type) where
  /-- What the server does with a request; it may leave it without an answer. -/
  serve : HttpRequest → σ → Option HttpAnswer × σ
  state : σ
  sent : List HttpRequest := []

namespace Connection

variable {σ : Type}

def send (c : Connection σ) (r : HttpRequest) : Option HttpAnswer × Connection σ :=
  let (answer, state) := c.serve r c.state
  (answer, { c with state, sent := c.sent ++ [r] })

/-- A connection to a server that gives the listed answers, one to each request, and none when
the list is at its end. -/
def scripted (answers : List HttpAnswer) : Connection (List HttpAnswer) where
  serve _ answers := (answers.head?, answers.tail)
  state := answers

end Connection

end VolumeHandover
