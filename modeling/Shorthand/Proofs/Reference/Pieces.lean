import Mathlib.Data.List.Basic
import Shorthand.Proofs.FirstOccurrences
import Shorthand.Reference

/-! The pieces of a text carry all that passing over it can tell. Matches, tokens and the question
whether there is a reference at all are read off the pieces, and so is a resolved text. -/

namespace Shorthand.Reference

/-- What a pass does at a piece. -/
def Piece.pass {β : Type} (plain : β → Char → β) (reference : β → List Char → β) (b : β) :
    Piece → β
  | .plain c => plain b c
  | .reference n => reference b n

/-- The name in a piece that is a reference. -/
def Piece.name? : Piece → Option (List Char)
  | .plain _ => none
  | .reference n => some n

/-- The references among pieces, the first of which begins at a position. -/
def matchesFrom (position : Nat) : List Piece → List Match
  | [] => []
  | .plain _ :: ps => matchesFrom (position + 1) ps
  | .reference n :: ps =>
    ⟨position, String.ofList n⟩ :: matchesFrom (position + 1 + n.length) ps

/-- A pass to which characters outside of references mean nothing sees the names alone. -/
theorem foldl_names {β : Type} (reference : β → List Char → β) (ps : List Piece) (b : β) :
    ps.foldl (Piece.pass (fun b _ => b) reference) b = (ps.filterMap Piece.name?).foldl reference b := by
  induction ps generalizing b with
  | nil => rfl
  | cons piece ps ih =>
      cases piece with
      | plain c => exact ih b
      | reference n => exact ih (reference b n)

theorem foldl_addNew (ns : List (List Char)) : (ns.foldl addNew []).reverse = ns.eraseDups := by
  induction ns using List.reverseRecOn with
  | nil => rfl
  | append_singleton ns n ih =>
      have hSeen : (ns.foldl addNew []).contains n = ns.contains n := by
        rw [Bool.eq_iff_iff, List.contains_iff_mem, List.contains_iff_mem, ← List.mem_reverse, ih,
          List.mem_eraseDups]
      rw [List.foldl_append, List.foldl_cons, List.foldl_nil, eraseDups_concat, addNew, hSeen]
      split
      · exact ih
      · rw [List.reverse_cons, ih]

namespace Pattern

variable {β : Type} {p : Pattern}

theorem pick_eq_some {bounded : Bool} {names : List (List Char)} {s n after : List Char}
    (h : pick bounded names s = some (n, after)) : n ∈ names ∧ s = n ++ after := by
  induction names with
  | nil => cases h
  | cons m names ih =>
      rw [pick] at h
      split at h
      · next rest hDrop =>
          split at h
          · cases h
            exact ⟨List.mem_cons_self .., Text.dropLead?_eq_some_iff.1 hDrop⟩
          · exact ⟨List.mem_cons_of_mem _ (ih h).1, (ih h).2⟩
      · exact ⟨List.mem_cons_of_mem _ (ih h).1, (ih h).2⟩

/-- The text at a reference is the marker, a name of the pattern and what follows. -/
theorem referenceAt?_eq_some {s n after : List Char} (h : p.referenceAt? s = some (n, after)) :
    n ∈ p.names ∧ s = marker :: n ++ after := by
  cases s with
  | nil => cases h
  | cons c rest =>
      rw [referenceAt?] at h
      split at h
      · next hMarker =>
          obtain ⟨hMem, hRest⟩ := pick_eq_some h
          exact ⟨hMem, by rw [hMarker, hRest, List.cons_append]⟩
      · cases h

/-- A text is gone through by its references and the characters between them. -/
@[elab_as_elim]
theorem text_induction (p : Pattern) {motive : List Char → Prop} (nil : motive [])
    (reference : ∀ n after, p.referenceAt? (marker :: n ++ after) = some (n, after) →
      motive after → motive (marker :: n ++ after))
    (plain : ∀ c rest, p.referenceAt? (c :: rest) = none → motive rest → motive (c :: rest))
    (s : List Char) : motive s := by
  induction hLength : s.length using Nat.strongRecOn generalizing s with
  | ind length ih =>
      subst hLength
      cases s with
      | nil => exact nil
      | cons c rest =>
          cases h : p.referenceAt? (c :: rest) with
          | none => exact plain c rest h (ih rest.length (by simp) rest rfl)
          | some found =>
              obtain ⟨n, after⟩ := found
              have hShorter : after.length < (c :: rest).length := by
                have := referenceAt?_length h
                omega
              have hText := (referenceAt?_eq_some h).2
              rw [hText] at h ⊢
              exact reference n after h (ih after.length hShorter after rfl)

variable {plain : β → Char → β} {reference : β → List Char → β}

theorem fold_nil (b : β) : p.fold plain reference b [] = b := by
  rw [fold]

theorem fold_of_reference (b : β) {s n after : List Char} (h : p.referenceAt? s = some (n, after)) :
    p.fold plain reference b s = p.fold plain reference (reference b n) after := by
  cases s with
  | nil => cases h
  | cons c rest =>
      rw [fold]
      split
      · next m after' hFound =>
          rw [h] at hFound
          cases hFound
          rfl
      · next hNone =>
          rw [h] at hNone
          cases hNone

theorem fold_of_plain (b : β) {c : Char} {rest : List Char} (h : p.referenceAt? (c :: rest) = none) :
    p.fold plain reference b (c :: rest) = p.fold plain reference (plain b c) rest := by
  rw [fold]
  split
  · next hFound =>
      rw [h] at hFound
      cases hFound
  · rfl

theorem pieces_nil : p.pieces [] = [] := by
  rw [pieces, fold_nil]
  rfl

/-- Pieces that were found before go in front. -/
theorem fold_pieces (done : List Piece) (s : List Char) :
    p.fold (fun done c => .plain c :: done) (fun done n => .reference n :: done) done s =
      (p.pieces s).reverse ++ done := by
  induction s using p.text_induction generalizing done with
  | nil => rw [fold_nil, pieces_nil, List.reverse_nil, List.nil_append]
  | reference n after h ih =>
      rw [pieces, fold_of_reference _ h, fold_of_reference _ h, ih, ih, List.reverse_reverse,
        List.append_assoc, List.singleton_append]
  | plain c rest h ih =>
      rw [pieces, fold_of_plain _ h, fold_of_plain _ h, ih, ih, List.reverse_reverse,
        List.append_assoc, List.singleton_append]

theorem pieces_of_reference {s n after : List Char} (h : p.referenceAt? s = some (n, after)) :
    p.pieces s = .reference n :: p.pieces after := by
  rw [pieces, fold_of_reference _ h, fold_pieces, List.reverse_append, List.reverse_reverse]
  rfl

theorem pieces_of_plain {c : Char} {rest : List Char} (h : p.referenceAt? (c :: rest) = none) :
    p.pieces (c :: rest) = .plain c :: p.pieces rest := by
  rw [pieces, fold_of_plain _ h, fold_pieces, List.reverse_append, List.reverse_reverse]
  rfl

/-- Whatever is gathered from a text is gathered from its pieces. -/
theorem fold_eq_foldl (b : β) (s : List Char) :
    p.fold plain reference b s = (p.pieces s).foldl (Piece.pass plain reference) b := by
  induction s using p.text_induction generalizing b with
  | nil => rw [fold_nil, pieces_nil, List.foldl_nil]
  | reference n after h ih =>
      rw [fold_of_reference _ h, pieces_of_reference h, List.foldl_cons, ih]
      rfl
  | plain c rest h ih =>
      rw [fold_of_plain _ h, pieces_of_plain h, List.foldl_cons, ih]
      rfl

/-- No character is lost, moved or made up. -/
theorem text_pieces (s : List Char) : (p.pieces s).flatMap Piece.text = s := by
  induction s using p.text_induction with
  | nil => rw [pieces_nil, List.flatMap_nil]
  | reference n after h ih => rw [pieces_of_reference h, List.flatMap_cons, ih, Piece.text]
  | plain c rest h ih => rw [pieces_of_plain h, List.flatMap_cons, ih, Piece.text]; rfl

/-- Every reference is to a name of the pattern. -/
theorem mem_names_of_reference {n s : List Char} (h : .reference n ∈ p.pieces s) :
    n ∈ p.names := by
  induction s using p.text_induction with
  | nil => simp [pieces_nil] at h
  | reference m after hFound ih =>
      rw [pieces_of_reference hFound, List.mem_cons] at h
      rcases h with h | h
      · cases h
        exact (referenceAt?_eq_some hFound).1
      · exact ih h
  | plain c rest hFound ih =>
      rw [pieces_of_plain hFound, List.mem_cons] at h
      rcases h with h | h
      · cases h
      · exact ih h

/-- The matches of a text are its references at their places. -/
theorem matches_eq (text : String) : p.matches text = matchesFrom 0 (p.pieces text.toList) := by
  have hFound : ∀ (ps : List Piece) (v : Survey),
      (ps.foldl (Piece.pass (fun (v : Survey) _ => { v with position := v.position + 1 })
        fun v n => ⟨v.position + 1 + n.length, ⟨v.position, String.ofList n⟩ :: v.found⟩) v).found =
        (matchesFrom v.position ps).reverse ++ v.found := by
    intro ps
    induction ps with
    | nil => intro v; rfl
    | cons piece ps ih =>
        intro v
        cases piece with
        | plain c => rw [List.foldl_cons, ih, Piece.pass, matchesFrom]
        | reference n =>
            rw [List.foldl_cons, ih, Piece.pass, matchesFrom, List.reverse_cons,
              List.append_assoc, List.singleton_append]
  rw [Pattern.matches, fold_eq_foldl, hFound, List.append_nil, List.reverse_reverse]

/-- The tokens are the references in the order of their first places. -/
theorem tokens_eq (text : String) :
    p.tokens text = ((p.pieces text.toList).filterMap Piece.name?).eraseDups.map token := by
  rw [tokens, fold_eq_foldl, foldl_names, foldl_addNew]

/-- A text refers to a name if one of its pieces is a reference. -/
theorem occurs_eq (text : String) :
    p.occurs text = !((p.pieces text.toList).filterMap Piece.name?).isEmpty := by
  have hFound : ∀ (ns : List (List Char)) (b : Bool),
      ns.foldl (fun _ _ => true) b = (b || !ns.isEmpty) := by
    intro ns
    induction ns with
    | nil => simp
    | cons n ns ih => simp [ih]
  rw [occurs, fold_eq_foldl, foldl_names, hFound, Bool.false_or]

end Pattern

end Shorthand.Reference
