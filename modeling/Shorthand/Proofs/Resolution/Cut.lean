import Shorthand.Proofs.Reference.Splice
import Shorthand.Proofs.Resolution.Pieces

/-! A text that is cut before a character which no name holds is treated part by part. No reference
goes across the cut, and under the boundary rule the end of the first part allows a reference to end
exactly where the character behind it does. So the resolved parts make up the resolved text, there is
a reference in the text if there is one in a part, and the different references are those of the first
part and then those of the second that are new. -/

namespace Shorthand

namespace Reference

variable {names : List String} {bounded : Bool} {left right : String}

/-- A text may be cut where the second part is empty or begins with a character that allows it. -/
def AllowsCut (names : List String) (bounded : Bool) (right : String) : Prop :=
  ∀ c ∈ right.toList.head?, CutsBefore names bounded c

theorem AllowsCut.pieces_append (h : AllowsCut names bounded right) (left : String) :
    (Pattern.build names bounded).pieces (left ++ right).toList =
      (Pattern.build names bounded).pieces left.toList ++
        (Pattern.build names bounded).pieces right.toList := by
  rw [String.toList_append]
  cases hRight : right.toList with
  | nil => rw [Pattern.pieces_nil, List.append_nil, List.append_nil]
  | cons c t =>
      have hCut : CutsBefore names bounded c := h c (by rw [hRight]; rfl)
      exact hCut.pieces_append left.toList t

theorem AllowsCut.has_append (h : AllowsCut names bounded right) (left : String) :
    has names (left ++ right) bounded = (has names left bounded || has names right bounded) := by
  rw [has, has, has, Pattern.occurs_eq, Pattern.occurs_eq, Pattern.occurs_eq, h.pieces_append,
    List.filterMap_append]
  cases ((Pattern.build names bounded).pieces left.toList).filterMap Piece.name? <;> rfl

theorem AllowsCut.find_append (h : AllowsCut names bounded right) (left : String) :
    find names (left ++ right) bounded =
      (find names left bounded ++ find names right bounded).eraseDups := by
  rw [find, find, find, Pattern.tokens_eq, Pattern.tokens_eq, Pattern.tokens_eq, h.pieces_append,
    List.filterMap_append, ← List.map_append, eraseDups_map token_injective,
    eraseDups_append_eraseDups]

end Reference

namespace Resolution

open Reference

variable {ds : List Definition} {bounded : Bool} {right : String}

/-- The resolution of a text that is made of two resolved parts. -/
def join (r r' : Resolution) : Resolution :=
  ⟨r.text ++ r'.text, (r.replaced ++ r'.replaced).eraseDups⟩

theorem resolveDefinitions_append (h : AllowsCut (ds.map (·.name)) bounded right) (left : String) :
    resolveDefinitions ds (left ++ right) bounded =
      (resolveDefinitions ds left bounded).join (resolveDefinitions ds right bounded) := by
  have hPieces : piecesOf ds (left ++ right) bounded =
      piecesOf ds left bounded ++ piecesOf ds right bounded := h.pieces_append left
  apply eq_of_parts
  · rw [join, resolveDefinitions_text, resolveDefinitions_text, resolveDefinitions_text, hPieces,
      List.flatMap_append, String.ofList_append]
  · rw [join, resolveDefinitions_replaced, resolveDefinitions_replaced, resolveDefinitions_replaced,
      hPieces, List.filterMap_append, ← List.map_append,
      eraseDups_map fun _ _ => String.ofList_injective, eraseDups_append_eraseDups]

/-- What the parts of a text have to do with the whole: it resolves to what the parts resolve to, one
after the other, it has a reference if one of them has, and the different references are found in the
parts. -/
structure Composes (entries : List Entry) (names : List String) (bounded : Bool)
    (left right : String) : Prop where
  resolved : ∃ r r', resolve entries left bounded = .ok r ∧ resolve entries right bounded = .ok r' ∧
    resolve entries (left ++ right) bounded = .ok (r.join r')
  occurs : has names (left ++ right) bounded = (has names left bounded || has names right bounded)
  found : find names (left ++ right) bounded =
    (find names left bounded ++ find names right bounded).eraseDups

/-- A text may be cut before any character that is in no name and, under the boundary rule, goes on
with no word. If no name holds a marker, it may be cut before any marker. -/
theorem composes_of_cut {entries : List Entry} {ds : List Definition}
    (hCoerced : List.Forall₂ (fun e d => e.coerce = .ok d) entries ds) (bounded : Bool)
    (left right : String) :
    let names := ds.map (·.name)
    (AllowsCut names bounded right → Composes entries names bounded left right) ∧
      ((∀ n ∈ names, marker ∉ n.toList) → right.toList.head? = some marker →
        Composes entries names bounded left right) := by
  intro names
  have hComposes : AllowsCut names bounded right →
      Composes entries names bounded left right := by
    intro hCut
    refine ⟨⟨_, _, resolve_of_coerced ds left bounded hCoerced,
      resolve_of_coerced ds right bounded hCoerced, ?_⟩, hCut.has_append left, hCut.find_append left⟩
    rw [resolve_of_coerced ds _ bounded hCoerced, resolveDefinitions_append hCut]
  refine ⟨hComposes, fun hNames hMarker => hComposes ?_⟩
  intro c hFirst
  rw [hMarker] at hFirst
  obtain rfl : marker = c := Option.some.inj hFirst
  exact cutsBefore_marker hNames

/-- Both parts refer to one name, and under the boundary rule the first part ends with a reference. -/
theorem composes_of_cut_behind_reference :
    let entries : List Entry :=
      [.raw (.table [("name", .text "a-b"), ("code", .text "#a")]), .raw (.table [("name", .int 7)]),
        .definition ⟨"a", "1", [], .own⟩, .raw (.table [("code", .text "0")])]
    let ds : List Definition :=
      [⟨"a-b", "#a", [], .own⟩, ⟨"7", "", [], .own⟩, ⟨"a", "1", [], .own⟩, ⟨"", "0", [], .own⟩]
    let names := ds.map (·.name)
    List.Forall₂ (fun e d => e.coerce = .ok d) entries ds ∧
      AllowsCut names true "/b #7 #a" ∧ Composes entries names true "#a-b #a" "/b #7 #a" ∧
      find names "#a-b #a/b #7 #a" true = ["#a-b", "#a", "#7"] ∧
      (∀ n ∈ names, marker ∉ n.toList) ∧ Composes entries names true "#a" "#7" := by
  intro entries ds names
  have hCoerced : List.Forall₂ (fun e d => e.coerce = .ok d) entries ds :=
    .cons rfl (.cons rfl (.cons rfl (.cons rfl .nil)))
  have hCut : AllowsCut names true "/b #7 #a" := by
    intro c hFirst
    obtain rfl : '/' = c := Option.some.inj hFirst
    exact ⟨by decide +kernel, fun _ => by decide +kernel⟩
  have hNames : ∀ n ∈ names, marker ∉ n.toList := by decide +kernel
  have hCanonical : canonical ["a-b", "7", "a", ""] = ["a-b".toList, "7".toList, "a".toList] :=
    List.mergeSort_of_pairwise (by decide)
  have hFound : ∀ text, find names text true =
      (⟨["a-b".toList, "7".toList, "a".toList], true⟩ : Pattern).tokens text := by
    intro text
    change (Pattern.build ["a-b", "7", "a", ""] true).tokens text = _
    rw [Pattern.build, hCanonical]
    rfl
  have hWhole := (composes_of_cut hCoerced true "#a-b #a" "/b #7 #a").1 hCut
  refine ⟨hCoerced, hCut, hWhole, hWhole.found.trans ?_, hNames, ?_⟩
  · rw [hFound, hFound]
    decide +kernel
  · exact (composes_of_cut hCoerced true "#a" "#7").2 hNames rfl

end Resolution

end Shorthand
