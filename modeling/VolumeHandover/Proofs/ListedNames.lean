import VolumeHandover.Selection
import Mathlib.Data.List.DropRight

set_option autoImplicit false

/-! # Lists of names and how they are written

A list of names can be written in many ways: there may be blanks around each name, and pieces that
are blank as a whole between the commas (`Written`). Reading takes back just what is written
(`parseCandidates_reads`): what can be read is a way to write the names that it yields, and every
way to write names is read as these names. There are no names in a text of commas and blanks only,
and that is the one thing which is an error.
-/

namespace VolumeHandover

namespace NameList

/-! ## Trimming -/

/-- All characters are blank. -/
def AllBlank (s : List Char) : Prop := ∀ c ∈ s, isBlank c = true

/-- A name that can be listed: there is something of it, no comma in it and no blank at its ends. -/
structure IsName (s : List Char) : Prop where
  nonempty : s ≠ []
  undivided : ',' ∉ s
  first : ∀ c ∈ s.head?, isBlank c = false
  last : ∀ c ∈ s.getLast?, isBlank c = false

theorem dropWhile_of_head {s : List Char} (first : ∀ c ∈ s.head?, isBlank c = false) :
    s.dropWhile isBlank = s := by
  cases s with
  | nil => rfl
  | cons c rest => exact List.dropWhile_cons_of_neg (by simp [first c rfl])

theorem head_dropWhile (s : List Char) : ∀ c ∈ (s.dropWhile isBlank).head?, isBlank c = false := by
  intro c mem
  have stops := List.head?_dropWhile_not isBlank s
  rw [Option.mem_def.mp mem] at stops
  exact stops

/-- What is trimmed are blanks. -/
theorem exists_padding (s : List Char) :
    ∃ front back, AllBlank front ∧ AllBlank back ∧ s = front ++ trimBlanks s ++ back := by
  refine ⟨s.takeWhile isBlank, ((s.dropWhile isBlank).reverse.takeWhile isBlank).reverse,
    fun c mem => List.mem_takeWhile_imp mem,
    fun c mem => List.mem_takeWhile_imp (List.mem_reverse.mp mem), ?_⟩
  rw [List.append_assoc, trimBlanks, ← List.reverse_append, List.takeWhile_append_dropWhile,
    List.reverse_reverse, List.takeWhile_append_dropWhile]

theorem trimBlanks_eq_nil_iff {s : List Char} : trimBlanks s = [] ↔ AllBlank s := by
  constructor
  · intro none
    obtain ⟨front, back, blank_front, blank_back, padded⟩ := exists_padding s
    rw [none, List.append_nil] at padded
    rw [padded]
    exact fun c mem => (List.mem_append.mp mem).elim (blank_front c) (blank_back c)
  · intro blank
    rw [trimBlanks, List.dropWhile_eq_nil_iff.mpr blank]
    rfl

/-- Around a name all blanks are trimmed. -/
theorem trimBlanks_padded {front name back : List Char} (blank_front : AllBlank front)
    (blank_back : AllBlank back) (isName : IsName name) :
    trimBlanks (front ++ name ++ back) = name := by
  have from_front : (front ++ name ++ back).dropWhile isBlank = name ++ back := by
    rw [List.append_assoc, List.dropWhile_append_of_pos blank_front]
    refine dropWhile_of_head ?_
    rw [List.head?_append_of_ne_nil _ isName.nonempty]
    exact isName.first
  have from_back : (name ++ back).reverse.dropWhile isBlank = name.reverse := by
    rw [List.reverse_append, List.dropWhile_append_of_pos fun c mem =>
      blank_back c (List.mem_reverse.mp mem)]
    refine dropWhile_of_head ?_
    rw [List.head?_reverse]
    exact isName.last
  rw [trimBlanks, from_front, from_back, List.reverse_reverse]

/-- What is left of a piece without a comma is a name, if anything is left. -/
theorem isName_trimBlanks {s : List Char} (undivided : ',' ∉ s) (left : trimBlanks s ≠ []) :
    IsName (trimBlanks s) where
  nonempty := left
  undivided mem := by
    obtain ⟨front, back, -, -, padded⟩ := exists_padding s
    rw [padded] at undivided
    exact undivided (List.mem_append_left _ (List.mem_append_right _ mem))
  first := by
    obtain ⟨rest, front⟩ : trimBlanks s <+: s.dropWhile isBlank := List.rdropWhile_prefix isBlank _
    have solid := head_dropWhile s
    rw [← front, List.head?_append_of_ne_nil _ left] at solid
    exact solid
  last := by
    intro c mem
    rw [trimBlanks, List.getLast?_reverse] at mem
    exact head_dropWhile _ c mem

/-! ## Cutting -/

theorem cutAt_ne_nil (separator : Char) (s : List Char) : cutAt separator s ≠ [] := by
  cases s with
  | nil => exact List.cons_ne_nil _ _
  | cons c rest =>
      rw [cutAt]
      split
      · exact List.cons_ne_nil _ _
      · split <;> exact List.cons_ne_nil _ _

theorem cutAt_cons_of_ne {separator c : Char} (other : c ≠ separator) (rest : List Char) :
    ∃ piece pieces, cutAt separator rest = piece :: pieces ∧
      cutAt separator (c :: rest) = (c :: piece) :: pieces := by
  obtain ⟨piece, pieces, cut⟩ := List.exists_cons_of_ne_nil (cutAt_ne_nil separator rest)
  refine ⟨piece, pieces, cut, ?_⟩
  rw [cutAt, if_neg other, cut]

/-- Cutting is the library's. -/
theorem cutAt_eq_splitOn (separator : Char) (s : List Char) :
    cutAt separator s = s.splitOn separator := by
  induction s with
  | nil => rfl
  | cons c rest ih =>
      rw [List.splitOn_eq_splitOnP, List.splitOnP_cons_eq_if_modifyHead,
        ← List.splitOn_eq_splitOnP, ← ih]
      by_cases same : c = separator
      · rw [cutAt, if_pos same, if_pos (beq_iff_eq.mpr same)]
      · obtain ⟨piece, pieces, cut, more⟩ := cutAt_cons_of_ne same rest
        rw [more, cut, if_neg fun equal => same (beq_iff_eq.mp equal), List.modifyHead_cons]

/-- The pieces hold the characters besides the separators. -/
theorem forall_cutAt_iff {separator : Char} {s : List Char} {p : Char → Prop} :
    (∀ piece ∈ cutAt separator s, ∀ c ∈ piece, p c) ↔ ∀ c ∈ s, c = separator ∨ p c := by
  induction s with
  | nil => simp [cutAt]
  | cons c rest ih =>
      rw [List.forall_mem_cons, ← ih]
      by_cases same : c = separator
      · rw [cutAt, if_pos same, List.forall_mem_cons]
        exact and_congr_left fun _ => iff_of_true (fun _ none => absurd none List.not_mem_nil)
          (.inl same)
      · obtain ⟨piece, pieces, cut, more⟩ := cutAt_cons_of_ne same rest
        rw [more, cut, List.forall_mem_cons, List.forall_mem_cons, List.forall_mem_cons,
          or_iff_right same, and_assoc]

/-! ## Ways to write names -/

/-- Pieces bear names: each of them is blank, or the next name with blanks around it. -/
inductive Bears : List (List Char) → List (List Char) → Prop
  | nil : Bears [] []
  | blank {piece : List Char} {pieces names : List (List Char)} (blank : AllBlank piece)
      (rest : Bears pieces names) : Bears (piece :: pieces) names
  | name {front name back : List Char} {pieces names : List (List Char)}
      (blank_front : AllBlank front) (blank_back : AllBlank back) (isName : IsName name)
      (rest : Bears pieces names) : Bears ((front ++ name ++ back) :: pieces) (name :: names)

/-- A text is a way to write names: pieces that bear them, with commas in between. -/
def Written (text : String) (names : List String) : Prop :=
  ∃ pieces, text.toList = [','].intercalate pieces ∧ Bears pieces (names.map String.toList)

namespace Bears

variable {pieces names : List (List Char)}

theorem isName (bears : Bears pieces names) : ∀ name ∈ names, IsName name := by
  induction bears with
  | nil => exact fun name mem => absurd mem List.not_mem_nil
  | blank _ _ ih => exact ih
  | name _ _ isName _ ih => exact List.forall_mem_cons.mpr ⟨isName, ih⟩

/-- There is no comma in the pieces, so that they are what cutting leaves. -/
theorem undivided (bears : Bears pieces names) : ∀ piece ∈ pieces, ',' ∉ piece := by
  have comma {s : List Char} (blank : AllBlank s) : ',' ∉ s := fun mem =>
    absurd (blank ',' mem) (by decide)
  induction bears with
  | nil => exact fun piece mem => absurd mem List.not_mem_nil
  | blank blank _ ih => exact List.forall_mem_cons.mpr ⟨comma blank, ih⟩
  | name blank_front blank_back isName _ ih =>
      refine List.forall_mem_cons.mpr ⟨?_, ih⟩
      rw [List.mem_append, List.mem_append, not_or, not_or]
      exact ⟨⟨comma blank_front, isName.undivided⟩, comma blank_back⟩

theorem read (bears : Bears pieces names) :
    (pieces.map trimBlanks).filter (· ≠ []) = names := by
  induction bears with
  | nil => rfl
  | blank blank _ ih =>
      rw [List.map_cons, trimBlanks_eq_nil_iff.mpr blank, List.filter_cons_of_neg (by simp), ih]
  | name blank_front blank_back isName _ ih =>
      rw [List.map_cons, trimBlanks_padded blank_front blank_back isName,
        List.filter_cons_of_pos (by simpa using isName.nonempty), ih]

/-- Pieces without commas bear what is left of them by trimming. -/
theorem of_undivided (undivided : ∀ piece ∈ pieces, ',' ∉ piece) :
    Bears pieces ((pieces.map trimBlanks).filter (· ≠ [])) := by
  induction pieces with
  | nil => exact .nil
  | cons piece pieces ih =>
      obtain ⟨here, there⟩ := List.forall_mem_cons.mp undivided
      rw [List.map_cons]
      by_cases none : trimBlanks piece = []
      · rw [List.filter_cons_of_neg (by simpa using none)]
        exact .blank (trimBlanks_eq_nil_iff.mp none) (ih there)
      · rw [List.filter_cons_of_pos (by simpa using none)]
        obtain ⟨front, back, blank_front, blank_back, padded⟩ := exists_padding piece
        have bears := Bears.name blank_front blank_back (isName_trimBlanks here none) (ih there)
        rw [← padded] at bears
        exact bears

end Bears

end NameList

/-! ## Reading -/

open NameList

variable {text : String} {names : List String}

/-- What is listed in a text is what it is a way to write. -/
theorem listedNames_eq_iff : listedNames text = names ↔ Written text names := by
  have to_list : String.toList ∘ String.ofList = id := funext fun _ => String.toList_ofList
  have of_list : String.ofList ∘ String.toList = id := funext fun _ => String.ofList_toList
  constructor
  · rintro rfl
    refine ⟨cutAt ',' text.toList, ?_, ?_⟩
    · rw [cutAt_eq_splitOn, List.intercalate_splitOn]
    · have undivided : ∀ piece ∈ cutAt ',' text.toList, ∀ c ∈ piece, c ≠ ',' :=
        forall_cutAt_iff.mpr fun c _ => em (c = ',')
      rw [listedNames, List.map_map, to_list, List.map_id]
      exact .of_undivided fun piece mem comma => undivided piece mem ',' comma rfl
  · rintro ⟨pieces, text_eq, bears⟩
    have read : ((cutAt ',' text.toList).map trimBlanks).filter (· ≠ []) =
        names.map String.toList := by
      cases pieces with
      | nil =>
          rw [text_eq, ← bears.read]
          rfl
      | cons piece pieces =>
          rw [text_eq, cutAt_eq_splitOn,
            List.splitOn_intercalate ',' bears.undivided (List.cons_ne_nil _ _), bears.read]
    rw [listedNames, read, List.map_map, of_list, List.map_id]

/-- Nothing is listed in commas and blanks, and in nothing else. -/
theorem listedNames_eq_nil_iff :
    listedNames text = [] ↔ ∀ c ∈ text.toList, c = ',' ∨ isBlank c = true := by
  rw [listedNames, List.map_eq_nil_iff, List.filter_eq_nil_iff, ← forall_cutAt_iff,
    List.forall_mem_map]
  refine forall₂_congr fun piece _ => ?_
  rw [decide_eq_true_iff, not_not, trimBlanks_eq_nil_iff, AllBlank]

/-- Names with commas in between are a way to write them. -/
theorem written_intercalate (isName : ∀ name ∈ names, IsName name.toList) :
    Written (",".intercalate names) names := by
  refine ⟨names.map String.toList, String.toList_intercalate, ?_⟩
  have nothing : AllBlank [] := fun c mem => absurd mem List.not_mem_nil
  induction names with
  | nil => exact .nil
  | cons name names ih =>
      obtain ⟨here, there⟩ := List.forall_mem_cons.mp isName
      have bears := Bears.name nothing nothing here (ih there)
      rw [List.nil_append, List.append_nil] at bears
      exact bears

theorem parseCandidates_eq_ok_iff :
    parseCandidates text = .ok names ↔ names ≠ [] ∧ Written text names := by
  rw [← listedNames_eq_iff, parseCandidates]
  cases listedNames text with
  | nil => exact iff_of_false nofun fun h => h.1 h.2.symm
  | cons name rest =>
      constructor
      · rintro ⟨⟩
        exact ⟨List.cons_ne_nil _ _, rfl⟩
      · rintro ⟨-, rfl⟩
        rfl

theorem parseCandidates_eq_error_iff {e : Error} :
    parseCandidates text = .error e ↔
      (∀ c ∈ text.toList, c = ',' ∨ isBlank c = true) ∧
        e = .configuration ("no storage classes listed in " ++ quoted text) := by
  rw [← listedNames_eq_nil_iff, parseCandidates]
  cases listedNames text with
  | nil =>
      constructor
      · rintro ⟨⟩
        exact ⟨rfl, rfl⟩
      · rintro ⟨-, rfl⟩
        rfl
  | cons name rest => exact iff_of_false nofun nofun

/-- **Lists of names are read as they are written**. Reading fails just on texts of commas and
blanks, with an error that shows the text. It yields some names just if the text is a way to write
them: pieces with commas in between, each blank or the next name with blanks around it. Then none of
the names is empty, has a comma in it or a blank at an end, and with commas in between they are read
as the same names again. -/
theorem parseCandidates_reads (text : String) :
    (∀ e, parseCandidates text = .error e ↔
      (∀ c ∈ text.toList, c = ',' ∨ isBlank c = true) ∧
        e = .configuration ("no storage classes listed in " ++ quoted text)) ∧
    (∀ names, parseCandidates text = .ok names ↔ names ≠ [] ∧ Written text names) ∧
    ∀ names, parseCandidates text = .ok names →
      (∀ name ∈ names, IsName name.toList) ∧
        parseCandidates (",".intercalate names) = .ok names := by
  refine ⟨fun e => parseCandidates_eq_error_iff, fun names => parseCandidates_eq_ok_iff, ?_⟩
  intro names parsed
  obtain ⟨some_name, pieces, -, bears⟩ := parseCandidates_eq_ok_iff.mp parsed
  have isName : ∀ name ∈ names, IsName name.toList := List.forall_mem_map.mp bears.isName
  exact ⟨isName, parseCandidates_eq_ok_iff.mpr ⟨some_name, written_intercalate isName⟩⟩

namespace Sample

/-- A list of two names, with an ideographic space and a piece of blanks. -/
def listed : String := " fast ,\u3000,slow class\t"

end Sample

/-- Blanks are trimmed around names and kept in them, and what is read is written as it is read. -/
theorem sample_names_read :
    parseCandidates Sample.listed = .ok ["fast", "slow class"] ∧
      parseCandidates "fast,slow class" = .ok ["fast", "slow class"] := by
  have parsed : parseCandidates Sample.listed = .ok ["fast", "slow class"] := by decide
  exact ⟨parsed, ((parseCandidates_reads Sample.listed).2.2 _ parsed).2⟩

end VolumeHandover
