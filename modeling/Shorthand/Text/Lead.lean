/-!
Texts that begin with a given text.
-/

namespace Shorthand.Text

/-- What follows `lead` in the text, if the text begins with it. -/
def dropLead? : (lead s : List Char) → Option (List Char)
  | [], s => some s
  | _ :: _, [] => none
  | a :: lead, c :: s => if a = c then dropLead? lead s else none

theorem dropLead?_eq_some_iff {lead s rest : List Char} :
    dropLead? lead s = some rest ↔ s = lead ++ rest := by
  fun_induction dropLead? lead s with
  | case1 s => simp [eq_comm]
  | case2 => simp
  | case3 a lead s ih => simp [ih]
  | case4 a lead c s hne => simp [Ne.symm hne]

theorem dropLead?_length {lead s rest : List Char} (h : dropLead? lead s = some rest) :
    lead.length + rest.length = s.length := by
  simp [dropLead?_eq_some_iff.1 h]

/-- The text without `lead` in front, if it begins with it. -/
def withoutLead (lead : List Char) (s : String) : String :=
  match dropLead? lead s.toList with
  | some rest => String.ofList rest
  | none => s

/-- The first word of a table that the text begins with: its entry, and what follows the word. -/
def leadingWord? {α : Type} (words : List (List Char × α)) (s : List Char) :
    Option (α × List Char) :=
  words.findSome? fun (word, entry) => (dropLead? word s).map (entry, ·)

theorem leadingWord?_length {α : Type} {words : List (List Char × α)} {s rest : List Char}
    {entry : α} (hWords : ∀ e ∈ words, e.1 ≠ [])
    (h : leadingWord? words s = some (entry, rest)) : rest.length < s.length := by
  unfold leadingWord? at h
  obtain ⟨⟨word, a⟩, hMem, hFound⟩ := List.exists_of_findSome?_eq_some h
  simp only [Option.map_eq_some_iff, Prod.mk.injEq] at hFound
  obtain ⟨after, hDrop, _, rfl⟩ := hFound
  have hLength := dropLead?_length hDrop
  have hWord : 0 < word.length := List.length_pos_iff.2 (hWords _ hMem)
  omega

end Shorthand.Text
