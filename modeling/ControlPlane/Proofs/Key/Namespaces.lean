import ControlPlane.Proofs.Key.Codec
import ControlPlane.Proofs.Store.ByteOrder
import ControlPlane.Proofs.Plane.Triple
import ControlPlane.Proofs.Store.Invariant
import ControlPlane.Configs.Basic
import Mathlib.Data.List.DropRight

/-!
# The service part and the configuration part of the store

Services live under the service prefix and a slash; configurations under the configuration
prefix and a slash, and a configuration range reads `[<configs>/, configRangeEnd)`. The range
end of a prefix ending in a slash is the prefix with a `0` in place of the slash
(`KeySpace.configRangeEnd_eq`), so the configuration range is exactly the keys that start with
the configuration prefix and a slash (`KeySpace.inConfigs_iff`).

Two sets of keys given by their starts meet exactly when one start begins the other. So the two
parts share a key exactly when the two prefixes, each with its slash, are nested
(`KeySpace.shared_key_iff_nested`); when they are not, no key of the configuration part reads
back as a service key (`KeySpace.decode_eq_none_of_inConfigs`).

Preparing the settings keeps the two prefixes non-empty and apart as texts
(`Settings.prepare_parts`), and no more: nested prefixes pass, and then every service key is
also a configuration key (`nested_prefixes_share_service_keys`).
-/

namespace ControlPlane

/-- The end of the range of keys that start with a text and a slash: the text and a `0`, the
character after the slash. -/
theorem prefixEnd_slash (p : String) : prefixEnd (p ++ "/") = p ++ "0" := by
  have succ : Char.succ? '/' = some '0' := by decide
  have rev : (p ++ "/").toList.reverse = '/' :: p.toList.reverse := by simp
  unfold prefixEnd
  rw [rev, prefixEndRev, succ]
  apply String.toList_inj.1
  simp

namespace KeySpace

variable (ks : KeySpace) {k : String}

/-- A key of the service part: it starts with the service prefix and a slash. -/
def InServices (k : String) : Prop := (ks.servicePart ++ "/").toList <+: k.toList

/-- A key of the configuration part: from the configuration prefix and a slash on, and below the
end of the configuration range. -/
def InConfigs (k : String) : Prop := ks.configPart ++ "/" ≤ k ∧ k < ks.configRangeEnd

/-- One part's prefix, with its slash, begins the other's. -/
def Nested : Prop :=
  (ks.servicePart ++ "/").toList <+: (ks.configPart ++ "/").toList ∨
    (ks.configPart ++ "/").toList <+: (ks.servicePart ++ "/").toList

instance : Decidable ks.Nested := inferInstanceAs (Decidable (_ ∨ _))

theorem configRangeEnd_eq : ks.configRangeEnd = ks.configPart ++ "0" :=
  prefixEnd_slash ks.configPart

/-- The configuration range is the keys that start with the configuration prefix and a slash. -/
theorem inConfigs_iff : ks.InConfigs k ↔ (ks.configPart ++ "/").toList <+: k.toList := by
  -- the range end is a real end, not the text that stands for the end of the keyspace
  have real : prefixEnd (ks.configPart ++ "/") ≠ "\x00" := by
    rw [prefixEnd_slash]
    intro h
    have last := congrArg (fun t : String => t.toList.getLast?) h
    simp at last
  rw [prefix_iff_inPrefixRange, InConfigs, configRangeEnd]
  simp only [real, false_or]

theorem inServices_of_decode {key : ServiceKey} (h : ks.decode k = some key) :
    ks.InServices k := by
  obtain ⟨rfl, -⟩ := ks.eq_encode_of_decode h
  rw [InServices, encode_eq, ← String.append_assoc]
  exact ⟨_, String.toList_append.symm⟩

/-- The two parts share a key exactly when their prefixes are nested: a key with both starts has
one start begin the other, and the longer start, with nothing after it, is a key of both. -/
theorem shared_key_iff_nested : (∃ k, ks.InServices k ∧ ks.InConfigs k) ↔ ks.Nested := by
  constructor
  · rintro ⟨k, inServices, inConfigs⟩
    exact List.prefix_or_prefix_of_prefix inServices ((ks.inConfigs_iff).1 inConfigs)
  · rintro (servicesFirst | configsFirst)
    · exact ⟨ks.configPart ++ "/", servicesFirst, (ks.inConfigs_iff).2 (List.prefix_refl _)⟩
    · exact ⟨ks.servicePart ++ "/", List.prefix_refl _, (ks.inConfigs_iff).2 configsFirst⟩

/-- When the prefixes are not nested, no key of the configuration part reads back as a service
key. -/
theorem decode_eq_none_of_inConfigs (apart : ¬ ks.Nested) (hk : ks.InConfigs k) :
    ks.decode k = none := by
  cases hdec : ks.decode k with
  | none => rfl
  | some key =>
    exact absurd ((ks.shared_key_iff_nested).1 ⟨k, ks.inServices_of_decode hdec, hk⟩) apart

end KeySpace

theorem trimTrailingSlashes_trim (s : String) :
    trimTrailingSlashes (trimTrailingSlashes s) = trimTrailingSlashes s := by
  unfold trimTrailingSlashes
  rw [String.toList_ofList, List.reverse_reverse, List.dropWhile_idempotent]

/-- Prepared settings have two non-empty prefixes that differ as texts. -/
theorem Settings.prepare_parts {t s : Settings} (h : t.prepare = .ok s) :
    s.keyspace.servicePart ≠ "" ∧ s.keyspace.configPart ≠ "" ∧
      s.keyspace.servicePart ≠ s.keyspace.configPart := by
  unfold Settings.prepare at h
  simp only [bind, Except.bind, pure, Except.pure] at h
  split at h
  · cases h
  split at h
  · cases h
  split at h
  · cases h
  rename_i servicesNe configsNe apart
  -- the checks after these keep the trimmed prefixes, or fail
  have trimmed : s.services.keyPrefix = trimTrailingSlashes t.services.keyPrefix ∧
      s.configs.keyPrefix = trimTrailingSlashes t.configs.keyPrefix := by
    repeat' split at h
    all_goals cases h
    all_goals exact ⟨rfl, rfl⟩
  simp only [Settings.keyspace, KeySpace.make, trimmed.1, trimmed.2, trimTrailingSlashes_trim]
  simp only [String.isEmpty_iff, beq_iff_eq] at servicesNe configsNe apart
  exact ⟨servicesNe, configsNe, apart⟩

/-- Settings that preparing accepts have distinct, non-empty prefixes; their service part and
configuration part share a key exactly when the prefixes are nested; and when they are not, no
key of the configuration part reads back as a service key. So, with prefixes that are not
nested, a configuration range never lists a key of the registry, and the registry's reads never
take a configuration key for one of theirs. -/
theorem namespaces_apart_unless_nested {t s : Settings} (prepared : t.prepare = .ok s) :
    s.keyspace.servicePart ≠ s.keyspace.configPart ∧
      ((∃ k, s.keyspace.InServices k ∧ s.keyspace.InConfigs k) ↔ s.keyspace.Nested) ∧
      (¬ s.keyspace.Nested → ∀ k, s.keyspace.InConfigs k → s.keyspace.decode k = none) :=
  ⟨(Settings.prepare_parts prepared).2.2, s.keyspace.shared_key_iff_nested,
    fun apart _ hk => s.keyspace.decode_eq_none_of_inConfigs apart hk⟩

/-- The standard settings are accepted, and their parts `/services` and `/configs` are apart. -/
theorem standard_namespaces_apart :
    (({} : Settings).prepare = .ok {}) ∧ ¬ ({} : Settings).keyspace.Nested ∧
      ({} : Settings).keyspace.servicePart ≠ ({} : Settings).keyspace.configPart ∧
      ((∃ k, ({} : Settings).keyspace.InServices k ∧ ({} : Settings).keyspace.InConfigs k) ↔
        ({} : Settings).keyspace.Nested) ∧
      (¬ ({} : Settings).keyspace.Nested → ∀ k, ({} : Settings).keyspace.InConfigs k →
        ({} : Settings).keyspace.decode k = none) :=
  have prepared : ({} : Settings).prepare = .ok {} := by rfl
  ⟨prepared, by decide, namespaces_apart_unless_nested prepared⟩

/-- Preparing accepts the service prefix `/configs/svc` under the configuration prefix
`/configs`. Then a descriptor key lies in both parts, and a configuration range over a store that
holds it lists it as a configuration. -/
theorem nested_prefixes_share_service_keys :
    ∃ s : Settings, ({ services := { keyPrefix := "/configs/svc" } } : Settings).prepare = .ok s ∧
      s.keyspace.InServices (s.keyspace.descriptorKey "orders:1.0" "dc-1") ∧
      s.keyspace.InConfigs (s.keyspace.descriptorKey "orders:1.0" "dc-1") ∧
      ((rangeConfigs "" "" none).exec
        { keyspace := s.keyspace
          store := (Store.Call.put 0 (s.keyspace.descriptorKey "orders:1.0" "dc-1") "v"
            .detach).apply (Store.make 4 4) }).1.toOption.map (·.1.map (·.name)) =
        some ["svc/orders:1.0/dc-1/desc"] := by
  refine ⟨{ services := { keyPrefix := "/configs/svc" } }, by rfl, ?_, ?_, by decide +kernel⟩
  · exact @KeySpace.inServices_of_decode _ _ ⟨"orders:1.0", "dc-1", .descriptor⟩ (by decide)
  · rw [KeySpace.inConfigs_iff]
    decide

end ControlPlane
