import Shorthand.Proofs.Catalogue.Load
import Shorthand.Proofs.Schema.Details

/-! What a catalogue holds, said without reading it: where its content stands, which definition an
element of a list or an entry of a table spells, and what is told of the first one that spells none.
Reading finds exactly that. -/

namespace Shorthand

open Schema

namespace Schema

variable {es : Entries} {name : String}

theorem field_text_eq_ok_iff {s : String} :
    field es name none text = .ok s ↔ es.get? name = some (.text s) := by
  rw [field, inside_eq_ok_iff]
  cases es.get? name with
  | none => simp [fail]
  | some v => cases v <;> simp [text, fail]

end Schema

namespace Catalogue

/-- A value that is a list or a table. -/
inductive IsContainer : Value → Prop where
  | list (items : List Value) : IsContainer (.list items)
  | table (es : Entries) : IsContainer (.table es)

/-- The content of a catalogue stands under the wrapper if nothing else is there and it is a list or
table; else the whole value is the content. -/
inductive Content : Value → Value → Prop where
  | wrapped {inner : Value} (h : IsContainer inner) : Content (.table [(wrapper, inner)]) inner
  | bare {v : Value} (h : ∀ inner, v = .table [(wrapper, inner)] → ¬IsContainer inner) : Content v v

/-- An element of a list spells a definition: it is a table with the name and the code as texts, and
its other entries are the extras. -/
inductive Spells : Value → Definition → Prop where
  | table {es : Entries} {name code : String} (hName : es.get? "name" = some (.text name))
      (hCode : es.get? "code" = some (.text code)) :
      Spells (.table es) ⟨name, code, Schema.extras es, .own⟩

/-- What stands under a name in a table spells a definition of that name: it is the code as a text, or a
table with the code as a text. A name inside that table is not looked at. -/
inductive SpellsUnder (name : String) : Value → Definition → Prop where
  | code (s : String) : SpellsUnder name (.text s) ⟨name, s, [], .own⟩
  | table {es : Entries} {code : String} (hCode : es.get? "code" = some (.text code)) :
      SpellsUnder name (.table es) ⟨name, code, Schema.extras es, .own⟩

/-- The definitions that a content holds, one for each element or entry, in order. -/
inductive Holds : Value → List Definition → Prop where
  | list {items : List Value} {ds : List Definition} (h : List.Forall₂ Spells items ds) :
      Holds (.list items) ds
  | table {es : Entries} {ds : List Definition}
      (h : List.Forall₂ (fun e d => SpellsUnder e.1 e.2 d) es ds) : Holds (.table es) ds

/-- The values that are neither lists nor tables, by the names of their kinds. -/
inductive IsScalar : Value → String → Prop where
  | null : IsScalar .null "NoneType"
  | bool (b : Bool) : IsScalar (.bool b) "bool"
  | int (i : Int) : IsScalar (.int i) "int"
  | float (x : Binary64) : IsScalar (.float x) "float"
  | text (s : String) : IsScalar (.text s) "str"
  | date (d : Date) : IsScalar (.date d) "date"
  | time (t : TimeOfDay) : IsScalar (.time t) "time"
  | moment (m : Moment) : IsScalar (.moment m) "datetime"

/-- The content stands in one place only. -/
theorem Content.eq_unwrap {v w : Value} (h : Content v w) : w = unwrap v := by
  cases h with
  | wrapped h => cases h <;> rfl
  | bare h =>
      fun_cases unwrap v with
      | case1 es => exact (h _ rfl (.table es)).elim
      | case2 items => exact (h _ rfl (.list items)).elim
      | case3 => rfl
      | case4 => rfl
      | case5 => rfl

theorem check_eq_ok_iff {v : Value} {d : Definition} : Definition.check v = .ok d ↔ Spells v d := by
  constructor
  · intro h
    obtain ⟨es, hTable, h⟩ := bind_eq_ok_iff.1 h
    obtain ⟨⟨name, code⟩, hFields, h⟩ := bind_eq_ok_iff.1 h
    obtain ⟨hName, hCode⟩ := both_eq_ok_iff.1 hFields
    cases h
    cases v with
    | table fs =>
        cases hTable
        exact .table (field_text_eq_ok_iff.1 hName) (field_text_eq_ok_iff.1 hCode)
    | _ => cases hTable
  · rintro ⟨hName, hCode⟩
    refine bind_eq_ok_iff.2 ⟨_, rfl, bind_eq_ok_iff.2 ⟨(_, _), ?_, rfl⟩⟩
    exact both_eq_ok_iff.2 ⟨field_text_eq_ok_iff.2 hName, field_text_eq_ok_iff.2 hCode⟩

theorem extras_put_name (es : Entries) (v : Value) : extras (es.put "name" v) = extras es := by
  rw [extras, extras, Entries.without_put]

theorem spells_entry_iff {name : String} {v : Value} {d : Definition} :
    Spells (entry name v) d ↔ SpellsUnder name v d := by
  constructor
  · intro h
    cases v with
    | table es =>
        obtain ⟨hName, hCode⟩ := h
        rw [Entries.get?_put] at hName hCode
        cases hName
        rw [extras_put_name]
        exact .table hCode
    | text s =>
        obtain ⟨hName, hCode⟩ := h
        cases hName
        cases hCode
        exact .code s
    | _ =>
        obtain ⟨hName, hCode⟩ := h
        cases hCode
  · rintro (⟨s⟩ | ⟨hCode⟩)
    · exact .table rfl rfl
    · rw [← extras_put_name]
      refine .table ?_ ?_
      · rw [Entries.get?_put, if_pos rfl]
      · rwa [Entries.get?_put, if_neg (by decide)]

section

variable {v : Value} {items : List Value} {es : Entries} {ds : List Definition} {e : CatalogueError}

theorem value_cases (w : Value) :
    (∃ items, w = .list items) ∨ (∃ es, w = .table es) ∨ ∃ name, IsScalar w name := by
  cases w with
  | list items => exact .inl ⟨items, rfl⟩
  | table es => exact .inr (.inl ⟨es, rfl⟩)
  | _ => exact .inr (.inr ⟨_, by constructor⟩)

theorem read_of_list (h : unwrap v = .list items) :
    read v = items.mapM fun u => (Definition.check u).mapError .invalid := by
  rw [read, entries, h]
  rfl

theorem read_of_table (h : unwrap v = .table es) :
    read v = es.mapM fun f => (Definition.check (entry f.1 f.2)).mapError .invalid := by
  rw [read, entries, h]
  exact List.mapM_map

theorem read_of_scalar {name : String} (h : IsScalar (unwrap v) name) :
    read v = .error (.kind name) := by
  rw [read, entries]
  generalize unwrap v = w at h
  cases h <;> rfl

theorem holds_list_iff : Holds (.list items) ds ↔ List.Forall₂ Spells items ds :=
  ⟨fun (.list h) => h, .list⟩

theorem holds_table_iff :
    Holds (.table es) ds ↔ List.Forall₂ (fun f d => SpellsUnder f.1 f.2 d) es ds :=
  ⟨fun (.table h) => h, .table⟩

theorem read_eq_ok_iff_holds : read v = .ok ds ↔ Holds (unwrap v) ds := by
  rcases value_cases (unwrap v) with ⟨items, h⟩ | ⟨es, h⟩ | ⟨name, h⟩
  · rw [h, holds_list_iff, read_of_list h, mapM_eq_ok_iff]
    simp only [mapError_eq_ok_iff, check_eq_ok_iff]
  · rw [h, holds_table_iff, read_of_table h, mapM_eq_ok_iff]
    simp only [mapError_eq_ok_iff, check_eq_ok_iff, spells_entry_iff]
  · rw [read_of_scalar h]
    constructor
    · intro hRead
      cases hRead
    · intro hHolds
      generalize unwrap v = w at h hHolds
      cases hHolds <;> cases h

end

/-- The first bad element has two faults, those of the second one are not told. -/
example : read (.table [(wrapper, .list [.table [("code", .int 1)], .null])]) =
    .error (.invalid [⟨.missing, [.field "name"]⟩, ⟨.textType, [.field "code"]⟩]) := rfl

end Catalogue

end Shorthand
