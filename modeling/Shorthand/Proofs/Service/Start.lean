import Shorthand.Proofs.Catalogue.Load
import Shorthand.Proofs.Catalogue.Text
import Shorthand.Proofs.Registry.History
import Shorthand.Proofs.Value.Equality
import Shorthand.Service

/-! The start of a service is atomic. Either its catalogue cannot be loaded, and then the registry is as it
was and the failure is that of loading; or every definition of the catalogue is added. Nothing fails
between the two, as what can be loaded can be added. -/

namespace Shorthand.Service

open Registry

/-- A service whose settings name no catalogue starts as it is. One that names a catalogue fails as
loading it fails, or has the definitions of the catalogue added to its registry in order: names that
were known keep their places, and the last definition of a name counts. -/
theorem start_is_atomic (s : Service) (files : Files) :
    let t := s.start files
    (s.settings.catalogue = none → t.service = s ∧ t.error = none) ∧
      ∀ path, s.settings.catalogue = some path →
        (∀ failure, Catalogue.load s.host.files files path = .error failure →
          t.service = s ∧ t.error = some (.load failure)) ∧
        ∀ ds event, Catalogue.load s.host.files files path = .ok (ds, event) →
          let r := t.service.registry
          t.error = none ∧ t.service.settings = s.settings ∧
            ds.foldlM (fun r d => (r.add (.definition d)).map (·.1)) s.registry = .ok r ∧
            r.names = (s.registry.names ++ ds.map fun d => stripMarker d.name).eraseDups ∧
            ∀ k, r.get? k = (last? ds k).or (s.registry.get? k) := by
  intro t
  refine ⟨fun hNone => ?_, fun path hPath => ⟨fun failure hLoad => ?_, fun ds event hLoad => ?_⟩⟩
  · simp only [t, start, hNone, and_self]
  · simp only [t, start, hPath, hLoad, and_self]
  · have hOwn := Catalogue.record_of_load hLoad
    obtain ⟨hError, hRegistry⟩ := addMany_definitions hOwn s.registry
    have hStart : t = ⟨{ s with registry := (s.registry.addMany (ds.map .definition)).registry },
        event :: (s.registry.addMany (ds.map .definition)).events, none⟩ := by
      simp only [t, start, hPath, hLoad, hError]
    rw [hStart, hRegistry]
    refine ⟨rfl, rfl, foldlM_add hOwn s.registry, ?_, get?_putAll_stripped s.registry ds⟩
    rw [names_putAll, List.map_map]
    rfl

/-- Three starts over one registry. The first has no catalogue, in the second a definition without
code stands behind a good one, and in the third two keys are one name, which is known. -/
theorem start_is_atomic_colliding :
    let good := "\x7b\"b\": \"1\", \"#a\": \"2\", \"a\": \x7b\"code\": \"3\"\x7d\x7d"
    let bad := "[\x7b\"name\": \"b\", \"code\": \"1\"\x7d, \x7b\"name\": \"c\"\x7d]"
    let files : Files :=
      ⟨[(["w", "good.json"], .file good.toUTF8), (["w", "bad.json"], .file bad.toUTF8)], ["w"]⟩
    let host : Host := {}
    let r := (empty.put "a" ⟨"a", "0", [], .own⟩).put "z" ⟨"z", "9", [], .own⟩
    let s := fun catalogue => Service.mk host { catalogue } r
    let bare := (s none).start files
    let failed := (s (some (Path.ofText "bad.json"))).start files
    let seeded := (s (some (Path.ofText "good.json"))).start files
    bare.error = none ∧ bare.service.registry = r ∧
      failed.error.isSome = true ∧ failed.service.registry = r ∧
      seeded.error = none ∧ seeded.service.registry.names = ["a", "z", "b"] ∧
      seeded.service.registry.get? "a" = some ⟨"a", "3", [], .own⟩ := by
  intro good bad files host r s bare failed seeded
  have hBad : ∃ failure, Catalogue.load host.files files (Path.ofText "bad.json") = .error failure := by
    have hText : Catalogue.readText files (Path.ofText "bad.json") = .ok bad.toList :=
      Catalogue.readText_eq_ok_iff.2
        ⟨bad, by decide +kernel, (Text.unifyNewlines_eq (by decide)).symm⟩
    have hParse : Catalogue.parse host.files .json (Path.ofText "bad.json") bad.toList =
        .ok (.list [.table [("name", .text "b"), ("code", .text "1")],
          .table [("name", .text "c")]]) := by decide +kernel
    rw [Catalogue.load_of_format (by rfl : _ = some .json)
      ((Path.contains_zero_ofText _).trans (by decide)), hText]
    change ∃ failure, (Catalogue.parse host.files .json _ bad.toList >>= _) = _
    rw [hParse]
    exact ⟨_, rfl⟩
  have hGood : Catalogue.load host.files files (Path.ofText "good.json") =
      .ok ([⟨"b", "1", [], .own⟩, ⟨"#a", "2", [], .own⟩, ⟨"a", "3", [], .own⟩],
        .loaded 3 "good.json") :=
    Catalogue.load_eq_ok_iff.2 ⟨.json, good.toList,
      .table [("b", .text "1"), ("#a", .text "2"), ("a", .table [("code", .text "3")])],
      by rfl, (Path.contains_zero_ofText _).trans (by decide), Catalogue.readText_eq_ok_iff.2
        ⟨good, by decide +kernel, (Text.unifyNewlines_eq (by decide)).symm⟩,
      by decide +kernel, by rfl, by decide +kernel⟩
  obtain ⟨failure, hFailed⟩ := hBad
  obtain ⟨hSame, hNone⟩ := (start_is_atomic (s none) files).1 rfl
  obtain ⟨hKept, hError⟩ := ((start_is_atomic (s _) files).2 _ rfl).1 failure hFailed
  obtain ⟨hStarted, _, _, hNames, hGet⟩ := ((start_is_atomic (s _) files).2 _ rfl).2 _ _ hGood
  refine ⟨hNone, congrArg Service.registry hSame, ?_, congrArg Service.registry hKept, hStarted,
    hNames.trans ?_, (hGet "a").trans ?_⟩
  · rw [hError]
    rfl
  · decide +kernel
  · rfl

end Shorthand.Service
