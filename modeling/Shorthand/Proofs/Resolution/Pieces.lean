import Shorthand.Proofs.Success
import Shorthand.Proofs.Reference.Locality
import Shorthand.Resolution

/-! A resolved text is made of the pieces of the text: characters outside of references stay, and
each reference gives way to the code of its name. All references of the pattern are to names that
have a definition, so none of them stays. -/

namespace Shorthand.Resolution

open Reference

/-- What stands in the resolved text for a piece. -/
def pieceText (ds : List Definition) : Piece → List Char
  | .plain c => [c]
  | .reference n => ((codeOf? ds (String.ofList n)).map String.toList).getD (marker :: n)

/-- The names among the references that have a definition. -/
def replaceable (ds : List Definition) (ns : List (List Char)) : List (List Char) :=
  ns.filter fun n => (codeOf? ds (String.ofList n)).isSome

/-- The pass that resolving is. -/
def progress (ds : List Definition) : Progress → Piece → Progress :=
  Piece.pass (fun p c => { p with written := p.written.push c }) (Progress.replace ds)

theorem progress_written (ds : List Definition) (p : Progress) (piece : Piece) :
    (progress ds p piece).written.toList = p.written.toList ++ pieceText ds piece := by
  cases piece with
  | plain c => simp [progress, Piece.pass, pieceText]
  | reference n =>
      cases h : codeOf? ds (String.ofList n) <;>
        simp [progress, Piece.pass, pieceText, Progress.replace, token, h]

theorem foldl_progress_written (ds : List Definition) (ps : List Piece) (p : Progress) :
    (ps.foldl (progress ds) p).written.toList = p.written.toList ++ ps.flatMap (pieceText ds) := by
  induction ps generalizing p with
  | nil => simp
  | cons piece ps ih =>
      rw [List.foldl_cons, ih, progress_written, List.flatMap_cons, List.append_assoc]

theorem foldl_progress_replaced (ds : List Definition) (ps : List Piece) (p : Progress) :
    (ps.foldl (progress ds) p).replaced =
      (replaceable ds (ps.filterMap Piece.name?)).foldl addNew p.replaced := by
  induction ps generalizing p with
  | nil => rfl
  | cons piece ps ih =>
      rw [List.foldl_cons, ih]
      cases piece with
      | plain c => rfl
      | reference n =>
          cases h : codeOf? ds (String.ofList n) <;>
            simp [progress, Piece.pass, Piece.name?, Progress.replace, replaceable, h]

/-- A name has code if there is a definition of that name. -/
theorem codeOf?_isSome_iff {ds : List Definition} {name : String} :
    (codeOf? ds name).isSome = true ↔ name ∈ ds.map (·.name) := by
  simp [codeOf?]

variable (ds : List Definition) (text : String) (bounded : Bool)

/-- The pieces into which the references to the names of definitions cut a text. -/
def piecesOf : List Piece :=
  (Pattern.build (ds.map (·.name)) bounded).pieces text.toList

theorem resolveDefinitions_text :
    (resolveDefinitions ds text bounded).text =
      String.ofList ((piecesOf ds text bounded).flatMap (pieceText ds)) := by
  rw [← String.toList_inj, String.toList_ofList, piecesOf]
  have h := foldl_progress_written ds (piecesOf ds text bounded) ⟨"", []⟩
  rw [resolveDefinitions, Pattern.fold_eq_foldl]
  exact h

/-- The replaced names are those of the references, in the order of their first places. -/
theorem resolveDefinitions_replaced :
    (resolveDefinitions ds text bounded).replaced =
      ((piecesOf ds text bounded).filterMap Piece.name?).eraseDups.map String.ofList := by
  have hAll : replaceable ds ((piecesOf ds text bounded).filterMap Piece.name?) =
      (piecesOf ds text bounded).filterMap Piece.name? := by
    rw [replaceable, List.filter_eq_self]
    intro n hMem
    obtain ⟨piece, hPiece, hName⟩ := List.mem_filterMap.1 hMem
    cases piece with
    | plain c => cases hName
    | reference m =>
        cases hName
        exact codeOf?_isSome_iff.2 (mem_canonical_iff.1 (Pattern.mem_names_of_reference hPiece)).2
  have h := foldl_progress_replaced ds (piecesOf ds text bounded) ⟨"", []⟩
  rw [hAll] at h
  rw [resolveDefinitions, Pattern.fold_eq_foldl, ← foldl_addNew]
  exact congrArg (fun ns => ns.reverse.map String.ofList) h

theorem eq_of_parts {r r' : Resolution} (hText : r.text = r'.text)
    (hReplaced : r.replaced = r'.replaced) : r = r' := by
  cases r
  cases r'
  cases hText
  cases hReplaced
  rfl

/-- Definitions are known to a resolution by the code of each name that the text mentions, and by
nothing else. -/
theorem resolveDefinitions_congr {ds' : List Definition}
    (h : ∀ n, Mentions text.toList n → codeOf? ds (String.ofList n) = codeOf? ds' (String.ofList n)) :
    resolveDefinitions ds text bounded = resolveDefinitions ds' text bounded := by
  have hPieces : piecesOf ds text bounded = piecesOf ds' text bounded := by
    apply Pattern.pieces_congr
    intro n hMentioned
    rw [← codeOf?_isSome_iff, ← codeOf?_isSome_iff, h n hMentioned]
  have hPiece : ∀ piece ∈ piecesOf ds' text bounded, pieceText ds piece = pieceText ds' piece := by
    intro piece hMem
    cases piece with
    | plain c => rfl
    | reference n => rw [pieceText, pieceText, h n (mentions_of_reference hMem)]
  apply eq_of_parts
  · rw [resolveDefinitions_text, resolveDefinitions_text, hPieces, List.flatMap_congr hPiece]
  · rw [resolveDefinitions_replaced, resolveDefinitions_replaced, hPieces]

/-- A text without references is its own resolution. -/
theorem resolveDefinitions_of_no_reference
    (h : (piecesOf ds text bounded).filterMap Piece.name? = []) :
    resolveDefinitions ds text bounded = ⟨text, []⟩ := by
  have hPlain : ∀ piece ∈ piecesOf ds text bounded, pieceText ds piece = piece.text := by
    intro piece hMem
    cases piece with
    | plain c => rfl
    | reference n => simpa [Piece.name?] using List.filterMap_eq_nil_iff.1 h _ hMem
  apply eq_of_parts
  · rw [resolveDefinitions_text, List.flatMap_congr hPlain, piecesOf, Pattern.text_pieces,
      String.ofList_toList]
  · rw [resolveDefinitions_replaced, h]
    rfl

/-- Without definitions there is nothing to refer to. -/
theorem resolveDefinitions_nil : resolveDefinitions [] text bounded = ⟨text, []⟩ := by
  apply resolveDefinitions_of_no_reference
  rw [List.filterMap_eq_nil_iff]
  intro piece hMem
  cases piece with
  | plain c => rfl
  | reference n => simpa using (mem_canonical_iff.1 (Pattern.mem_names_of_reference hMem)).2

/-- Entries resolve a text as the definitions do that they stand for; leaving a text alone for want
of entries makes no difference. -/
theorem resolve_of_coerced {entries : List Entry}
    (hCoerced : List.Forall₂ (fun e d => e.coerce = .ok d) entries ds) :
    resolve entries text bounded = .ok (resolveDefinitions ds text bounded) := by
  rw [resolve]
  cases hCoerced with
  | nil =>
      rw [resolveDefinitions_nil]
      rfl
  | cons hHead hTail =>
      rw [mapM_eq_ok_iff.2 (hTail.cons hHead)]
      rfl

/-- Definitions stand for themselves. -/
theorem resolve_of_definitions :
    resolve (ds.map .definition) text bounded = .ok (resolveDefinitions ds text bounded) :=
  resolve_of_coerced ds text bounded
    (List.forall₂_map_left_iff.2 (List.forall₂_same.2 fun _ _ => rfl))

end Shorthand.Resolution
