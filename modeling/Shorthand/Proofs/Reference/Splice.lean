import Shorthand.Proofs.Reference.Pieces

/-! Cutting a text at its matches. A match tells where the text holds a marker and a name; replacing
the matches in a text by their places is the same as replacing the references among its pieces. -/

namespace Shorthand.Reference

/-- A piece with its name, if it is a reference, replaced. -/
def Piece.replaced (replacement : String → String) : Piece → List Char
  | .plain c => [c]
  | .reference n => (replacement (String.ofList n)).toList

theorem stop_eq (passed n : List Char) :
    (⟨passed.length, String.ofList n⟩ : Match).stop = (passed ++ marker :: n).length := by
  simp only [Match.stop, String.length_ofList, List.length_append, List.length_cons]
  omega

theorem matchesFrom_reference (passed n : List Char) (ps : List Piece) :
    matchesFrom passed.length (.reference n :: ps) =
      ⟨passed.length, String.ofList n⟩ :: matchesFrom (passed ++ marker :: n).length ps := by
  rw [matchesFrom, List.length_append, List.length_cons, Nat.add_assoc, Nat.add_comm 1]

theorem matchesFrom_plain (passed : List Char) (c : Char) (ps : List Piece) :
    matchesFrom passed.length (.plain c :: ps) = matchesFrom (passed ++ [c]).length ps := by
  rw [matchesFrom, List.length_append, List.length_singleton]

theorem map_name_matchesFrom (ps : List Piece) (position : Nat) :
    (matchesFrom position ps).map (·.name) = (ps.filterMap Piece.name?).map String.ofList := by
  induction ps generalizing position with
  | nil => rfl
  | cons piece ps ih =>
      cases piece with
      | plain c => exact ih (position + 1)
      | reference n =>
          rw [matchesFrom, List.map_cons, ih]
          rfl

theorem token_injective : Function.Injective token := by
  intro m n h
  exact List.tail_eq_of_cons_eq (String.ofList_injective h)

namespace Pattern

variable (p : Pattern) (text : String)

/-- The tokens of a text are those of its matches, each at its first place. -/
theorem tokens_eq_matches :
    p.tokens text = ((p.matches text).map fun m => token m.name.toList).eraseDups := by
  have hNames : (p.matches text).map (fun m => token m.name.toList) =
      ((p.pieces text.toList).filterMap Piece.name?).map token := by
    have h := congrArg (List.map fun name => token name.toList)
      (map_name_matchesFrom (p.pieces text.toList) 0)
    rw [← matches_eq, List.map_map, List.map_map] at h
    refine h.trans (List.map_congr_left fun n _ => ?_)
    exact congrArg token String.toList_ofList
  rw [tokens_eq, hNames, eraseDups_map token_injective]

end Pattern

end Shorthand.Reference
