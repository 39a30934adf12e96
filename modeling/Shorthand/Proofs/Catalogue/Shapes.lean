import Shorthand.Proofs.Catalogue.Content

/-! The shapes of catalogues. Definitions can be written as a list of tables, as a table from names to
tables or, without extras, as a table from names to code, and each of these may stand under the wrapper.
All shapes are read as the same definitions. There is one exception: a table from names to tables whose
only name is the wrapper is taken for a wrapper. -/

namespace Shorthand.Catalogue

open Schema

/-- A table with the code and the extras of a definition. Whether it has a name as well, and which, is of
no account. -/
structure Bears (es : Entries) (d : Definition) : Prop where
  code : es.get? "code" = some (.text d.code)
  extras : Schema.extras es = d.extras

/-- Definitions as a list of tables. -/
def listed (ds : List Definition) : Value := .list (ds.map fun d => .table d.toEntries)

/-- Definitions as a table from their names to tables that bear the rest. -/
def named (ds : List Definition) (inner : List Entries) : Value :=
  .table (Entries.ofPairs ((ds.map (·.name)).zip (inner.map .table)))

/-- Definitions as a table from their names to their code. -/
def coded (ds : List Definition) : Value :=
  .table (Entries.ofPairs (ds.map fun d => (d.name, .text d.code)))

/-- A value under the wrapper, with nothing beside it. -/
def wrap (v : Value) : Value := .table [(wrapper, v)]

variable {v : Value} {d : Definition} {ds : List Definition} {es : Entries} {inner : List Entries}

/-! Single definitions. -/

/-- A checked definition is spelled by its own table. -/
theorem Spells.toEntries (h : Spells v d) : Spells (.table d.toEntries) d := by
  obtain @⟨es, name, code, hName, hCode⟩ := h
  have hSpells : Spells (.table (Definition.toEntries ⟨name, code, extras es, .own⟩)) _ :=
    .table rfl rfl
  rwa [Definition.toEntries, extras_cons_fields] at hSpells

/-- What bears a checked definition spells it under its name. -/
theorem Bears.spellsUnder (h : Bears es d) (hSpells : Spells v d) :
    SpellsUnder d.name (.table es) d := by
  obtain @⟨given, name, code⟩ := hSpells
  have hExtras : Schema.extras es = Schema.extras given := h.extras
  rw [← hExtras]
  exact .table h.code

/-- The code of a checked definition without extras spells it under its name. -/
theorem Spells.spellsUnder_code (h : Spells v d) (hPlain : d.extras = []) :
    SpellsUnder d.name (.text d.code) d := by
  obtain @⟨es, name, code⟩ := h
  have hExtras : extras es = [] := hPlain
  rw [hExtras]
  exact .code code

theorem SpellsUnder.name_eq {name : String} (h : SpellsUnder name v d) : d.name = name := by
  cases h <;> rfl

/-- The code and the extras alone bear a checked definition. -/
theorem Spells.bears (h : Spells v d) : Bears (("code", .text d.code) :: d.extras) d := by
  obtain @⟨es, name, code⟩ := h
  exact ⟨rfl, extras_cons_fields (.text name) (.text code) es⟩

/-- A name given to the table, or changed in it, is of no account. -/
theorem Bears.put_name (h : Bears es d) (w : Value) : Bears (es.put "name" w) d where
  code := by rw [Entries.get?_put, if_neg (by decide), h.code]
  extras := by rw [extras_put_name, h.extras]

/-! Whole catalogues. -/

/-- What holds the definitions is read as them under the wrapper. -/
theorem Holds.read_wrap (h : Holds v ds) : read (wrap v) = .ok ds := by
  have hContainer : IsContainer v := by
    cases h <;> constructor
  rw [read_eq_ok_iff_holds, wrap, ← (Content.wrapped hContainer).eq_unwrap]
  exact h

/-- What holds the definitions is read as them by itself, if it is not taken for a wrapper. -/
theorem Holds.read_bare (h : Holds v ds)
    (hBare : ∀ inner, v = wrap inner → ¬IsContainer inner) : read v = .ok ds := by
  rw [read_eq_ok_iff_holds, ← (Content.bare hBare).eq_unwrap]
  exact h

theorem holds_listed (h : ∀ d ∈ ds, ∃ v, Spells v d) : Holds (listed ds) ds := by
  refine .list (List.forall₂_map_left_iff.2 (List.forall₂_same.2 fun d hMem => ?_))
  obtain ⟨v, hSpells⟩ := h d hMem
  exact hSpells.toEntries

theorem listed_ne_wrap (inner : Value) : listed ds ≠ wrap inner := nofun

theorem keys_zip_names (hLength : inner.length = ds.length) :
    Entries.keys ((ds.map (·.name)).zip (inner.map Value.table)) = ds.map (·.name) :=
  List.map_fst_zip (by simp [hLength])

/-- Different names are the keys of the table, in order. -/
theorem named_eq (hDistinct : (ds.map (·.name)).Nodup) (hLength : inner.length = ds.length) :
    named ds inner = .table ((ds.map (·.name)).zip (inner.map .table)) := by
  rw [named, Entries.ofPairs_eq]
  rwa [← keys_zip_names hLength] at hDistinct

theorem holds_named (h : ∀ d ∈ ds, ∃ v, Spells v d) (hDistinct : (ds.map (·.name)).Nodup)
    (hBears : List.Forall₂ Bears inner ds) : Holds (named ds inner) ds := by
  rw [named_eq hDistinct hBears.length_eq]
  refine .table ?_
  clear hDistinct
  induction hBears with
  | nil => exact .nil
  | @cons es d inner ds hHead hTail ih =>
      rw [List.forall_mem_cons] at h
      obtain ⟨v, hSpells⟩ := h.1
      exact .cons (hHead.spellsUnder hSpells) (ih h.2)

theorem coded_eq (hDistinct : (ds.map (·.name)).Nodup) :
    coded ds = .table (ds.map fun d => (d.name, .text d.code)) := by
  rw [coded, Entries.ofPairs_eq]
  rwa [List.map_map]

theorem holds_coded (h : ∀ d ∈ ds, ∃ v, Spells v d) (hDistinct : (ds.map (·.name)).Nodup)
    (hPlain : ∀ d ∈ ds, d.extras = []) : Holds (coded ds) ds := by
  rw [coded_eq hDistinct]
  refine .table (List.forall₂_map_left_iff.2 (List.forall₂_same.2 fun d hMem => ?_))
  obtain ⟨v, hSpells⟩ := h d hMem
  exact hSpells.spellsUnder_code (hPlain d hMem)

/-- Code stands for no wrapped catalogue. -/
theorem not_isContainer_of_coded (hDistinct : (ds.map (·.name)).Nodup) {w : Value}
    (h : coded ds = wrap w) : ¬IsContainer w := by
  rw [coded_eq hDistinct, wrap, Value.table.injEq, List.map_eq_singleton_iff] at h
  obtain ⟨d, rfl, hEntry⟩ := h
  rw [← (Prod.mk.inj hEntry).2]
  exact nofun

/-- A table from names to tables looks like a wrapper if its only name is the wrapper. -/
theorem named_eq_wrap (hBears : List.Forall₂ Bears inner ds) (hName : ds.map (·.name) = [wrapper]) :
    ∃ d es, ds = [d] ∧ inner = [es] ∧ named ds inner = wrap (.table es) := by
  obtain ⟨d, rfl, hWrapper⟩ := List.map_eq_singleton_iff.1 hName
  obtain ⟨es, _, hHead, hNil, rfl⟩ := List.forall₂_cons_right_iff.1 hBears
  cases hNil
  refine ⟨d, es, rfl, rfl, ?_⟩
  rw [named, hName]
  rfl

/-- The code inside gives the table another name than the wrapper. -/
theorem not_holds_of_bears (hBears : Bears es d) (hName : d.name = wrapper) :
    ¬Holds (.table es) [d] := by
  intro hHolds
  obtain ⟨e, rest, hHead, hNil, rfl⟩ := List.forall₂_cons_right_iff.1 (holds_table_iff.1 hHolds)
  cases hNil
  have hKey : e.1 = wrapper := by
    rw [← hHead.name_eq, hName]
  have hCode : Entries.get? [e] "code" = none := by
    rw [Entries.get?_cons, hKey]
    rfl
  rw [hBears.code] at hCode
  cases hCode

theorem read_named_iff (h : ∀ d ∈ ds, ∃ v, Spells v d) (hDistinct : (ds.map (·.name)).Nodup)
    (hBears : List.Forall₂ Bears inner ds) :
    read (named ds inner) = .ok ds ↔ ds.map (·.name) ≠ [wrapper] := by
  constructor
  · intro hRead hName
    obtain ⟨d, es, rfl, rfl, hWrap⟩ := named_eq_wrap hBears hName
    rw [hWrap, read_eq_ok_iff_holds, wrap, ← (Content.wrapped (.table es)).eq_unwrap] at hRead
    exact not_holds_of_bears (List.forall₂_cons.1 hBears).1 (List.singleton_inj.1 hName) hRead
  · intro hName
    refine (holds_named h hDistinct hBears).read_bare fun w hWrap => ?_
    rw [named_eq hDistinct hBears.length_eq, wrap, Value.table.injEq] at hWrap
    rw [← keys_zip_names hBears.length_eq, hWrap] at hName
    exact absurd rfl hName

/-- The shapes agree. Checked definitions are read from the list of their tables; if their names are
different, also from every table from their names to what bears the rest, and from the table from
their names to their code if there are no extras; and from each of these under the wrapper. Only a table
from names to tables that has the wrapper as its only name, and stands by itself, is read otherwise. -/
theorem shapes_agree (hChecked : ∀ d ∈ ds, ∃ v, Definition.check v = .ok d) :
    (read (listed ds) = .ok ds ∧ read (wrap (listed ds)) = .ok ds) ∧
      ((ds.map (·.name)).Nodup →
        (∀ inner, List.Forall₂ Bears inner ds →
          (read (named ds inner) = .ok ds ↔ ds.map (·.name) ≠ [wrapper]) ∧
            read (wrap (named ds inner)) = .ok ds) ∧
          ((∀ d ∈ ds, d.extras = []) →
            read (coded ds) = .ok ds ∧ read (wrap (coded ds)) = .ok ds)) := by
  have hSpells : ∀ d ∈ ds, ∃ v, Spells v d := by
    simpa only [check_eq_ok_iff] using hChecked
  refine ⟨?_, fun hDistinct => ⟨fun inner hBears => ?_, fun hPlain => ?_⟩⟩
  · have hHolds := holds_listed hSpells
    exact ⟨hHolds.read_bare fun w hWrap => absurd hWrap (listed_ne_wrap w), hHolds.read_wrap⟩
  · have hHolds := holds_named hSpells hDistinct hBears
    exact ⟨read_named_iff hSpells hDistinct hBears, hHolds.read_wrap⟩
  · have hHolds := holds_coded hSpells hDistinct hPlain
    exact ⟨hHolds.read_bare fun w => not_isContainer_of_coded hDistinct, hHolds.read_wrap⟩

/-- Two definitions, one of which is called like the wrapper, with tables that name themselves
otherwise; and that definition alone, which its table from names to tables loses. -/
theorem shapes_agree_wrapper_name :
    let d : Definition := ⟨wrapper, "x", [("b", .int 1), ("a", .null)], .own⟩
    let e : Definition := ⟨"#code", "y", [], .own⟩
    let es : Entries := [("code", .text "x"), ("b", .int 1), ("a", .null), ("name", .null)]
    let fs : Entries := [("code", .text "y"), ("name", .text "z")]
    (∀ x ∈ [d, e], ∃ v, Definition.check v = .ok x) ∧ List.Forall₂ Bears [es, fs] [d, e] ∧
      read (listed [d, e]) = .ok [d, e] ∧ read (named [d, e] [es, fs]) = .ok [d, e] ∧
        read (wrap (coded [e])) = .ok [e] ∧ read (named [d] [es]) ≠ .ok [d] := by
  intro d e es fs
  have hFirst : ∃ v, Definition.check v = .ok d := ⟨.table d.toEntries, rfl⟩
  have hSecond : ∃ v, Definition.check v = .ok e := ⟨.table e.toEntries, rfl⟩
  have hBoth : ∀ x ∈ [d, e], ∃ v, Definition.check v = .ok x :=
    List.forall_mem_cons.2 ⟨hFirst, List.forall_mem_singleton.2 hSecond⟩
  have hBears : Bears es d := (Spells.bears (v := .table d.toEntries) (.table rfl rfl)).put_name .null
  have hOther : Bears fs e :=
    (Spells.bears (v := .table e.toEntries) (.table rfl rfl)).put_name (.text "z")
  obtain ⟨⟨hListed, _⟩, hTables⟩ := shapes_agree hBoth
  obtain ⟨hNamed, _⟩ := hTables (by decide)
  obtain ⟨_, hAlone⟩ := shapes_agree (List.forall_mem_singleton.2 hFirst)
  obtain ⟨_, hPlain⟩ := shapes_agree (List.forall_mem_singleton.2 hSecond)
  have hAll : List.Forall₂ Bears [es, fs] [d, e] := .cons hBears (.cons hOther .nil)
  refine ⟨hBoth, hAll, hListed, ?_, ?_, ?_⟩
  · exact (hNamed [es, fs] hAll).1.2 (by decide)
  · exact ((hPlain (by decide)).2 (List.forall_mem_singleton.2 rfl)).2
  · exact fun hRead => ((hAlone (by decide)).1 [es] (.cons hBears .nil)).1.1 hRead rfl

end Shorthand.Catalogue
