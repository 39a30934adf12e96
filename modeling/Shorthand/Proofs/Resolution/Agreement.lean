import Mathlib.Data.List.Find
import Shorthand.Proofs.Reference.Splice
import Shorthand.Proofs.Registry.Put
import Shorthand.Proofs.Resolution.Pieces

/-! Detection and resolution by one registry. Detection asks the keys of the registry, and resolution
the names in its definitions; where every definition stands under its own name, the two patterns are
the same. The resolved text is then the text cut at the matches of that pattern, with the code of
each name in the place of its match. -/

namespace Shorthand.Registry

open Reference Resolution

/-- The code that a registry holds for a name, and nothing for a name that it does not know. -/
def codeOf (r : Registry) (name : String) : String := ((r.get? name).map (·.code)).getD ""

/-- The first definition of a name is the one that stands under it. -/
theorem Keyed.codeOf? {r : Registry} (h : r.Keyed) (name : String) :
    Resolution.codeOf? r.definitions name = (r.get? name).map (·.code) := by
  rw [Resolution.codeOf?, definitions, List.find?_map, get?, Option.map_map, Option.map_map]
  exact congrArg (Option.map _) (List.find?_congr fun e hMem => by simp [h e hMem])

theorem Keyed.piecesOf {r : Registry} (h : r.Keyed) (text : String) (bounded : Bool) :
    Resolution.piecesOf r.definitions text bounded =
      (Pattern.build r.names bounded).pieces text.toList := by
  rw [Resolution.piecesOf, h.map_name]

theorem exists_of_known {r : Registry} {bounded : Bool} {n : List Char}
    (h : n ∈ (Pattern.build r.names bounded).names) : ∃ d, r.get? (String.ofList n) = some d := by
  have hKnown := (mem_canonical_iff.1 h).2
  rwa [← get?_isSome_iff, Option.isSome_iff_exists] at hKnown

/-- A reference to a known name gives way to the code that the registry holds for it. -/
theorem Keyed.pieceText {r : Registry} (h : r.Keyed) {text : String} {bounded : Bool} {piece : Piece}
    (hMem : piece ∈ (Pattern.build r.names bounded).pieces text.toList) :
    Resolution.pieceText r.definitions piece = piece.replaced r.codeOf := by
  cases piece with
  | plain c => rfl
  | reference n =>
      obtain ⟨d, hd⟩ := exists_of_known (Pattern.mem_names_of_reference hMem)
      simp [Resolution.pieceText, Piece.replaced, h.codeOf?, codeOf, hd]

end Shorthand.Registry
