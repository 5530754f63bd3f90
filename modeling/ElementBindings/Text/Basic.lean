/-!
# Text/Basic — cutting, trimming and replacing

Text is a `String` at the edges of the library and a `List Char` inside it, where every function
below is a recursion on the characters.  `splitOn` never loses a character (`join_splitOn`), and a
replacement scans from the left and does not look at what it has just written.
-/

namespace ElementBindings.Text

/-! ## Cutting -/

/-- The pieces of a text between the characters that `sep` accepts: one more than there are such
characters. -/
def splitOn (sep : Char → Bool) : List Char → List (List Char)
  | [] => [[]]
  | c :: cs =>
    let pieces := splitOn sep cs
    if sep c then [] :: pieces else (c :: pieces.headD []) :: pieces.tail

@[simp] theorem splitOn_nil (sep : Char → Bool) : splitOn sep [] = [[]] := rfl

theorem splitOn_ne_nil (sep : Char → Bool) (cs : List Char) : splitOn sep cs ≠ [] := by
  cases cs with
  | nil => simp
  | cons c cs => simp only [splitOn]; split <;> simp

/-- No piece holds a separator. -/
theorem not_mem_splitOn {sep : Char → Bool} {cs piece : List Char} (h : piece ∈ splitOn sep cs)
    {c : Char} (hc : c ∈ piece) : sep c = false := by
  induction cs generalizing piece with
  | nil => simp_all
  | cons d ds ih =>
    simp only [splitOn] at h
    split at h
    · rcases List.mem_cons.1 h with rfl | h
      · simp at hc
      · exact ih h hc
    · next hd =>
      rcases List.mem_cons.1 h with rfl | h
      · rcases List.mem_cons.1 hc with rfl | hc
        · simpa using hd
        · refine @ih ((splitOn sep ds).headD []) ?_ hc
          cases hs : splitOn sep ds with
          | nil => exact absurd hs (splitOn_ne_nil sep ds)
          | cons p ps => simp
      · exact ih (List.mem_of_mem_tail h) hc

/-- **Cutting at one character loses nothing** — put back between the pieces, it gives the text. -/
theorem join_splitOn (d : Char) (cs : List Char) :
    [d].intercalate (splitOn (· == d) cs) = cs := by
  induction cs with
  | nil => rfl
  | cons c cs ih =>
    have hne := splitOn_ne_nil (· == d) cs
    obtain ⟨p, ps, hp⟩ := List.exists_cons_of_ne_nil hne
    rw [hp] at ih
    simp only [splitOn, hp]
    split
    · next h =>
      have : c = d := by simpa using h
      subst this
      rw [List.intercalate, List.intersperse_cons_cons] at *
      simpa [List.intercalate] using ih
    · cases ps with
      | nil => simpa [List.intercalate] using ih
      | cons q qs => simpa [List.intercalate] using ih

/-- The text up to the first character that `stop` accepts, and the text from it on. -/
def breakAt (stop : Char → Bool) (cs : List Char) : List Char × List Char :=
  (cs.takeWhile (!stop ·), cs.dropWhile (!stop ·))

/-- The rest of a text after `lead`, when it begins so. -/
def dropLead? : List Char → List Char → Option (List Char)
  | [], cs => some cs
  | _ :: _, [] => none
  | l :: ls, c :: cs => if l = c then dropLead? ls cs else none

theorem dropLead?_eq_some {ls cs rest : List Char} :
    dropLead? ls cs = some rest ↔ cs = ls ++ rest := by
  induction ls generalizing cs with
  | nil => simp [dropLead?, eq_comm]
  | cons l ls ih =>
    cases cs with
    | nil => simp [dropLead?]
    | cons c cs =>
      by_cases h : l = c
      · simp [dropLead?, h, ih]
      · simp [dropLead?, h, Ne.symm h]

/-- Whether `word` occurs in a text. -/
def contains (word : List Char) : List Char → Bool
  | [] => word.isEmpty
  | c :: cs => word.isPrefixOf (c :: cs) || contains word cs

/-! ## Trimming -/

/-- A list without the elements at its end that `blank` accepts. -/
def dropEnd {α : Type} (blank : α → Bool) (cs : List α) : List α :=
  (cs.reverse.dropWhile blank).reverse

/-- A list without the elements at either end that `blank` accepts. -/
def strip {α : Type} (blank : α → Bool) (cs : List α) : List α :=
  dropEnd blank (cs.dropWhile blank)

/-! ## Replacing -/

/-- Every occurrence of `old` replaced, from the left; what a replacement wrote is not read again.
The first argument counts the characters of an occurrence that are still to be skipped. -/
def replaceFrom (old new : List Char) : Nat → List Char → List Char
  | _, [] => []
  | skip + 1, _ :: cs => replaceFrom old new skip cs
  | 0, c :: cs =>
    if old.isPrefixOf (c :: cs) then new ++ replaceFrom old new (old.length - 1) cs
    else c :: replaceFrom old new 0 cs

/-- Every occurrence of a non-empty `old` replaced by `new`, from the left. -/
def replace (old new cs : List Char) : List Char :=
  if old.isEmpty then cs else replaceFrom old new 0 cs

/-! ## Lines -/

/-- A line without the carriage return that ends it. -/
def dropReturn (line : List Char) : List Char :=
  if line.getLast? = some '\r' then line.dropLast else line

/-- The lines of a text, each ended by a line feed or by a carriage return and a line feed; an
empty last line is no line, and the last line keeps a carriage return of its own. -/
def lines (cs : List Char) : List (List Char) :=
  let pieces := splitOn (· == '\n') cs
  let ended := pieces.dropLast.map dropReturn
  match pieces.getLast? with
  | some (c :: last) => ended ++ [c :: last]
  | _ => ended

end ElementBindings.Text
