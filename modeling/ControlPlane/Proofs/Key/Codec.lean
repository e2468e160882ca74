import ControlPlane.Key.Space
import ControlPlane.Key.Policy

/-!
# Reading service keys back

A service key is written as `<services>/<service>/<zone>/<leaf>` and read back by splitting at
the first two slashes. Writing and reading are inverse on the keys the registry writes: its
checks admit only services, zones and addresses that are segments, non-empty and without a
slash (`segment_of_checkService`, `segment_of_checkZone`, `AddressPolicy.segment_of_check`).

1. `Segment`, `ServiceKey.Readable`: the parts a key must have to read back.
2. `KeySpace.decode_encode`: a readable key reads back as itself; `KeySpace.eq_encode_of_decode`:
   whatever reads back as a key is that key written.
3. `KeySpace.serviceScanStart_prefix_iff`, `KeySpace.zoneScanStart_prefix_iff`: a key starts with
   the scan start of a service, or of a zone, exactly when it belongs to it; the slash that ends
   a scan start keeps a version apart from its extensions.
4. `service_keys_round_trip`: the codec of any keyspace, the checks standing in for readability.
-/


namespace ControlPlane

/-- Where a list stops being skipped, its head fails the test. -/
theorem dropWhile_eq_cons_head {α : Type} {p : α → Bool} :
    ∀ {l : List α} {x : α} {r : List α}, l.dropWhile p = x :: r → p x = false
  | [], _, _, h => by simp at h
  | a :: l, x, r, h => by
    rw [List.dropWhile_cons] at h
    split at h
    · exact dropWhile_eq_cons_head h
    · cases h
      simpa using ‹¬p a = true›

namespace Grammar

theorem slash_not_mem_of_all {p : Char → Bool} (hp : p '/' = false) {cs : List Char}
    (h : cs.all p = true) : '/' ∉ cs := fun hm => by
  have := List.all_eq_true.1 h '/' hm
  rw [hp] at this
  cases this

theorem isService_segment {cs : List Char} (h : isService cs = true) :
    cs ≠ [] ∧ '/' ∉ cs := by
  unfold isService at h
  split at h
  · rename_i sep version hdrop
    simp only [Bool.and_eq_true] at h
    obtain ⟨hname, hversion⟩ := h
    have whole := List.takeWhile_append_dropWhile (p := fun c => decide (c ≠ ':')) (l := cs)
    rw [hdrop] at whole
    -- the separator stands where the name stops: it is the colon
    have hsep : sep = ':' := by simpa using dropWhile_eq_cons_head hdrop
    refine ⟨fun hnil => by simp [hnil] at hdrop, fun hm => ?_⟩
    rw [← whole] at hm
    rcases List.mem_append.1 hm with hm | hm
    · unfold isName at hname
      split at hname
      · rename_i c rest heq
        rw [heq] at hm
        simp only [Bool.and_eq_true, decide_eq_true_eq] at hname
        rcases List.mem_cons.1 hm with rfl | hm
        · exact absurd hname.1.1 (by decide)
        · exact slash_not_mem_of_all (by decide) hname.1.2 hm
      · cases hname
    · rcases List.mem_cons.1 hm with h | hm
      · rw [hsep] at h
        cases h
      · cases version with
        | nil => cases hm
        | cons c rest =>
          simp only [isVersion, Bool.and_eq_true] at hversion
          rcases List.mem_cons.1 hm with rfl | hm
          · exact absurd hversion.1 (by decide)
          · exact slash_not_mem_of_all (by decide) hversion.2 hm
  · cases h

theorem isZone_segment {cs : List Char} (h : isZone cs = true) : cs ≠ [] ∧ '/' ∉ cs := by
  unfold isZone at h
  split at h
  · rename_i c rest
    simp only [Bool.and_eq_true] at h
    refine ⟨List.cons_ne_nil _ _, fun hm => ?_⟩
    rcases List.mem_cons.1 hm with rfl | hm
    · exact absurd h.1 (by decide)
    · exact slash_not_mem_of_all (by decide) h.2 hm
  · cases h

theorem isAddress_segment {cs : List Char} (h : isAddress cs = true) :
    cs ≠ [] ∧ '/' ∉ cs := by
  unfold isAddress at h
  simp only [Bool.and_eq_true, Bool.not_eq_true', List.isEmpty_eq_false_iff] at h
  exact ⟨h.1, slash_not_mem_of_all (by decide) h.2⟩

end Grammar

/-- A path segment that the keyspace reads back: not empty, and without a slash. -/
structure Segment (s : String) : Prop where
  nonempty : s.toList ≠ []
  noSlash : '/' ∉ s.toList

theorem segment_of_checkService {s : String} (h : checkService s = .ok ()) : Segment s := by
  unfold checkService at h
  split at h
  · rename_i hs
    exact ⟨(Grammar.isService_segment hs).1, (Grammar.isService_segment hs).2⟩
  · cases h

theorem segment_of_checkZone {z : String} (h : checkZone z = .ok ()) : Segment z := by
  unfold checkZone at h
  split at h
  · rename_i hz
    exact ⟨(Grammar.isZone_segment hz).1, (Grammar.isZone_segment hz).2⟩
  · cases h

theorem checkServiceZone_ok {s z : String} (h : checkServiceZone s z = .ok ()) :
    checkService s = .ok () ∧ checkZone z = .ok () := by
  unfold checkServiceZone at h
  cases hs : checkService s with
  | error e => rw [hs] at h; cases h
  | ok u => rw [hs] at h; exact ⟨rfl, h⟩

theorem AddressPolicy.segment_of_check {policy : AddressPolicy} {a : String}
    (h : policy.check a = .ok ()) : Segment a := by
  unfold AddressPolicy.check at h
  split at h
  · cases h
  · split at h
    · cases h
    · rename_i hgrammar
      have grammar : Grammar.isAddress a.toList = true := by simpa using hgrammar
      exact ⟨(Grammar.isAddress_segment grammar).1, (Grammar.isAddress_segment grammar).2⟩


/-- Skipping to the first separator of a text without one, followed by the separator, stops at
that separator. -/
theorem takeWhile_segment {sep : Char} {u v : List Char} (h : sep ∉ u) :
    (u ++ sep :: v).takeWhile (· ≠ sep) = u := by
  rw [List.takeWhile_append_of_pos (fun c hc => by
      simp only [ne_eq, decide_eq_true_eq]
      rintro rfl
      exact h hc),
    List.takeWhile_cons_of_neg (by simp), List.append_nil]

theorem dropWhile_segment {sep : Char} {u v : List Char} (h : sep ∉ u) :
    (u ++ sep :: v).dropWhile (· ≠ sep) = sep :: v := by
  rw [List.dropWhile_append_of_pos (fun c hc => by
      simp only [ne_eq, decide_eq_true_eq]
      rintro rfl
      exact h hc),
    List.dropWhile_cons_of_neg (by simp)]

/-- Of two segments each followed by a slash, one starts the other only when they are equal. -/
theorem segment_prefix {a b x y : List Char} (ha : '/' ∉ a) (hb : '/' ∉ b) :
    a ++ '/' :: x <+: b ++ '/' :: y ↔ a = b ∧ x <+: y := by
  constructor
  · rintro ⟨t, ht⟩
    have same : a = b := by
      have := congrArg (List.takeWhile (· ≠ '/')) ht
      rwa [List.append_assoc, List.cons_append, takeWhile_segment ha, takeWhile_segment hb] at this
    subst same
    simp only [List.append_assoc, List.cons_append, List.append_cancel_left_eq,
      List.cons.injEq, true_and] at ht
    exact ⟨rfl, ⟨t, ht⟩⟩
  · rintro ⟨rfl, t, rfl⟩
    exact ⟨t, by simp⟩

namespace KeySpace

theorem splitThree_join {a b c : String} (ha : '/' ∉ a.toList) (hb : '/' ∉ b.toList) :
    splitThree (a ++ "/" ++ b ++ "/" ++ c) = [a, b, c] := by
  have cs : (a ++ "/" ++ b ++ "/" ++ c).toList =
      a.toList ++ '/' :: (b.toList ++ '/' :: c.toList) := by
    simp
  simp only [splitThree, cs, takeWhile_segment ha, dropWhile_segment ha, takeWhile_segment hb,
    dropWhile_segment hb, String.ofList_toList]

/-- A text that splits into three parts is them joined by slashes, the first two without one. -/
theorem eq_join_of_splitThree {r a b c : String} (h : splitThree r = [a, b, c]) :
    r = a ++ "/" ++ b ++ "/" ++ c ∧ '/' ∉ a.toList ∧ '/' ∉ b.toList := by
  unfold splitThree at h
  dsimp only at h
  split at h
  · cases h
  · rename_i x rest hdrop
    split at h
    · cases h
    · rename_i y third hdrop'
      simp only [List.cons.injEq, and_true] at h
      obtain ⟨rfl, rfl, rfl⟩ := h
      have hx : x = '/' := by simpa using dropWhile_eq_cons_head hdrop
      have hy : y = '/' := by simpa using dropWhile_eq_cons_head hdrop'
      subst hx hy
      have whole :=
        List.takeWhile_append_dropWhile (p := fun c => decide (c ≠ '/')) (l := r.toList)
      have whole' := List.takeWhile_append_dropWhile (p := fun c => decide (c ≠ '/')) (l := rest)
      rw [hdrop] at whole
      rw [hdrop'] at whole'
      have clean : ∀ l : List Char,
          '/' ∉ (String.ofList (l.takeWhile (· ≠ '/'))).toList := by
        intro l hm
        have := List.all_eq_true.1 List.all_takeWhile '/' (by simpa using hm)
        simp at this
      refine ⟨?_, clean _, clean _⟩
      generalize List.takeWhile (fun c => decide (c ≠ '/')) r.toList = first at whole ⊢
      generalize List.takeWhile (fun c => decide (c ≠ '/')) rest = second at whole' ⊢
      apply String.toList_inj.1
      rw [← whole, ← whole']
      simp

end KeySpace


theorem stripStart?_append (p r : String) : stripStart? (p ++ r) p = some r := by
  unfold stripStart?
  rw [if_pos (List.isPrefixOf_iff_prefix.2 (by simp)), ← String.length_toList]
  simp

theorem eq_append_of_stripStart? {s p r : String} (h : stripStart? s p = some r) : s = p ++ r := by
  unfold stripStart? at h
  split at h
  · rename_i hp
    cases h
    obtain ⟨t, ht⟩ := List.isPrefixOf_iff_prefix.1 hp
    apply String.toList_inj.1
    simp [← ht, ← String.length_toList]
  · cases h

/-- A service key whose parts the keyspace reads back: service, zone and address are
segments. -/
structure ServiceKey.Readable (k : ServiceKey) : Prop where
  service : Segment k.service
  zone : Segment k.zone
  address : ∀ a, k.suffix = .node a → Segment a

namespace KeySpace

variable (ks : KeySpace) {k : ServiceKey}

theorem encode_eq (k : ServiceKey) :
    ks.encode k = ks.servicePart ++ ("/" ++ (k.service ++ "/" ++ k.zone ++ "/" ++ k.leaf)) := by
  simp [encode, ServiceKey.display, String.append_assoc]

/-- A key written for a readable service key reads back as it. -/
theorem decode_encode (hk : k.Readable) : ks.decode (ks.encode k) = some k := by
  obtain ⟨service, zone, suffix⟩ := k
  obtain ⟨⟨hs, hs'⟩, ⟨hz, hz'⟩, ha⟩ := hk
  have service_ne : service.isEmpty = false := by simpa [String.isEmpty_iff] using hs
  have zone_ne : zone.isEmpty = false := by simpa [String.isEmpty_iff] using hz
  simp only [decode, encode_eq, stripStart?_append, Option.bind_eq_bind, Option.bind_some,
    splitThree_join hs' hz', service_ne, zone_ne, Bool.or_false, Bool.false_eq_true, if_false]
  cases suffix with
  | descriptor => simp [ServiceKey.leaf]
  | node a =>
    obtain ⟨ha, ha'⟩ := ha a rfl
    have leaf_ne : ("node_" ++ a) ≠ "desc" := fun h => by
      have := congrArg (fun t => t.toList.head?) h
      simp at this
    simp [ServiceKey.leaf, leaf_ne, stripStart?_append, String.isEmpty_iff, ha']
    exact fun h => ha (by simp [h])

/-- A key that reads back as a service key is that key written, and the service key is
readable. -/
theorem eq_encode_of_decode {raw : String} (h : ks.decode raw = some k) :
    raw = ks.encode k ∧ k.Readable := by
  unfold decode at h
  simp only [Option.bind_eq_bind, Option.bind_eq_some_iff] at h
  obtain ⟨rest, hrest, rest', hrest', h⟩ := h
  rw [eq_append_of_stripStart? hrest'] at hrest
  have raw_eq := eq_append_of_stripStart? hrest
  split at h
  · rename_i service zone leaf hsplit
    obtain ⟨hjoin, hs, hz⟩ := eq_join_of_splitThree hsplit
    have segments : Segment service ∧ Segment zone := by
      split at h
      · cases h
      · rename_i hne
        simp only [Bool.or_eq_true, String.isEmpty_iff, not_or] at hne
        exact ⟨⟨fun he => hne.1 (String.toList_inj.1 (by simpa using he)), hs⟩,
          ⟨fun he => hne.2 (String.toList_inj.1 (by simpa using he)), hz⟩⟩
    split at h
    · cases h
    · split at h
      · -- the descriptor's leaf
        rename_i hleaf
        cases h
        refine ⟨?_, ⟨segments.1, segments.2, fun a ha => by cases ha⟩⟩
        rw [raw_eq, hjoin, hleaf, encode_eq]
        rfl
      · -- an endpoint's leaf: the address after its mark
        simp only [Option.bind_eq_some_iff] at h
        obtain ⟨address, haddr, h⟩ := h
        split at h
        · cases h
        · rename_i hok
          cases h
          simp only [Bool.or_eq_true, String.isEmpty_iff, not_or] at hok
          refine ⟨?_, ⟨segments.1, segments.2, fun a ha => ?_⟩⟩
          · rw [raw_eq, hjoin, eq_append_of_stripStart? haddr, encode_eq]
            rfl
          · cases ha
            exact ⟨fun he => hok.1 (String.toList_inj.1 (by simpa using he)),
              fun hm => hok.2 (by simpa using hm)⟩
  · cases h

/-- A key starts with the scan start of a service exactly when it is a key of that service, as
long as neither service holds a slash; its zone and leaf may be anything. -/
theorem serviceScanStart_prefix_iff {k : ServiceKey} {service : String}
    (hs : '/' ∉ service.toList) (hk : '/' ∉ k.service.toList) :
    (ks.serviceScanStart service).toList <+: (ks.encode k).toList ↔ k.service = service := by
  have start : (ks.serviceScanStart service).toList =
      (ks.servicePart.toList ++ ['/']) ++ (service.toList ++ '/' :: []) := by
    simp [serviceScanStart]
  have key : (ks.encode k).toList = (ks.servicePart.toList ++ ['/']) ++
      (k.service.toList ++ '/' :: (k.zone.toList ++ '/' :: k.leaf.toList)) := by
    simp [encode_eq]
  rw [start, key, List.prefix_append_right_inj, segment_prefix hs hk]
  simp [eq_comm, String.toList_inj]

/-- A key starts with the scan start of a zone exactly when it is a key of that service and zone,
as long as none of the services and zones holds a slash; its leaf may be anything. -/
theorem zoneScanStart_prefix_iff {k : ServiceKey} {service zone : String}
    (hs : '/' ∉ service.toList) (hz : '/' ∉ zone.toList) (hks : '/' ∉ k.service.toList)
    (hkz : '/' ∉ k.zone.toList) :
    (ks.zoneScanStart service zone).toList <+: (ks.encode k).toList ↔
      k.service = service ∧ k.zone = zone := by
  have start : (ks.zoneScanStart service zone).toList =
      (ks.servicePart.toList ++ ['/']) ++
        (service.toList ++ '/' :: (zone.toList ++ '/' :: [])) := by
    simp [zoneScanStart]
  have key : (ks.encode k).toList = (ks.servicePart.toList ++ ['/']) ++
      (k.service.toList ++ '/' :: (k.zone.toList ++ '/' :: k.leaf.toList)) := by
    simp [encode_eq]
  rw [start, key, List.prefix_append_right_inj, segment_prefix hs hks, segment_prefix hz hkz]
  simp [eq_comm, String.toList_inj]

/-- The key of a readable service key starts with the scan start of a service exactly when it
is a key of that service. -/
theorem prefix_serviceScanStart (hk : k.Readable) {service : String}
    (hs : '/' ∉ service.toList) :
    (ks.serviceScanStart service).toList <+: (ks.encode k).toList ↔ k.service = service :=
  ks.serviceScanStart_prefix_iff hs hk.service.noSlash

/-- The key of a readable service key starts with the scan start of a zone exactly when it is a
key of that zone. -/
theorem prefix_zoneScanStart (hk : k.Readable) {service zone : String}
    (hs : '/' ∉ service.toList) (hz : '/' ∉ zone.toList) :
    (ks.zoneScanStart service zone).toList <+: (ks.encode k).toList ↔
      k.service = service ∧ k.zone = zone :=
  ks.zoneScanStart_prefix_iff hs hz hk.service.noSlash hk.zone.noSlash

/-- A zone's descriptor key is not under the zone's endpoint scan start: below the zone the two
leaves part at their first character. -/
theorem not_nodeScanStart_prefix_descriptorKey (service zone : String) :
    ¬ (ks.nodeScanStart service zone).toList <+: (ks.descriptorKey service zone).toList := by
  have start : (ks.nodeScanStart service zone).toList =
      (ks.servicePart.toList ++ '/' :: (service.toList ++ '/' :: (zone.toList ++ ['/']))) ++
        "node_".toList := by
    simp [nodeScanStart]
  have key : (ks.descriptorKey service zone).toList =
      (ks.servicePart.toList ++ '/' :: (service.toList ++ '/' :: (zone.toList ++ ['/']))) ++
        "desc".toList := by
    simp [descriptorKey, encode_eq, ServiceKey.leaf]
  rw [start, key, List.prefix_append_right_inj]
  decide

end KeySpace

/-- A service key whose service and zone pass their checks, and whose address, if it has one,
passes an address policy, is readable. -/
theorem ServiceKey.readable_of_checks {policy : AddressPolicy} {k : ServiceKey}
    (hz : checkServiceZone k.service k.zone = .ok ())
    (ha : ∀ a, k.suffix = .node a → policy.check a = .ok ()) : k.Readable := by
  obtain ⟨hs, hz⟩ := checkServiceZone_ok hz
  exact ⟨segment_of_checkService hs, segment_of_checkZone hz,
    fun a h => policy.segment_of_check (ha a h)⟩

/-- Service keys are written and read back one to one, whatever the keyspace's prefixes. A key
whose service and zone pass their checks, and whose address passes the address policy of any
ban list, reads back as itself; whatever reads back as a key is that key written. The scan starts
keep services and zones apart: no key of another checked service starts with a service's scan
start (a version `1.00` is not under `1.0`), no key of another checked zone starts with a zone's
scan start, and a zone's descriptor key is not among its endpoint keys. -/
theorem service_keys_round_trip (ks : KeySpace) :
    (∀ (policy : AddressPolicy) (k : ServiceKey), checkServiceZone k.service k.zone = .ok () →
        (∀ a, k.suffix = .node a → policy.check a = .ok ()) → ks.decode (ks.encode k) = some k) ∧
      (∀ (raw : String) (k : ServiceKey), ks.decode raw = some k → ks.encode k = raw) ∧
      (∀ (service service' : String) (k : ServiceKey), checkService service = .ok () →
        checkService service' = .ok () → service ≠ service' → k.service = service' →
        ¬ (ks.serviceScanStart service).toList <+: (ks.encode k).toList) ∧
      (∀ (service zone zone' : String) (k : ServiceKey), checkServiceZone service zone = .ok () →
        checkZone zone' = .ok () → zone ≠ zone' → k.service = service → k.zone = zone' →
        ¬ (ks.zoneScanStart service zone).toList <+: (ks.encode k).toList) ∧
      (∀ service zone : String,
        ¬ (ks.nodeScanStart service zone).toList <+: (ks.descriptorKey service zone).toList) := by
  refine ⟨fun policy k hz ha => ks.decode_encode (ServiceKey.readable_of_checks hz ha),
    fun raw k h => (ks.eq_encode_of_decode h).1.symm, ?_, ?_, ks.not_nodeScanStart_prefix_descriptorKey⟩
  · intro service service' k hs hs' hne hk under
    have own := (segment_of_checkService hs).noSlash
    have other : '/' ∉ k.service.toList := hk ▸ (segment_of_checkService hs').noSlash
    exact hne (((ks.serviceScanStart_prefix_iff own other).1 under).symm.trans hk)
  · intro service zone zone' k hz hz' hne hks hkz under
    obtain ⟨hs, hz⟩ := checkServiceZone_ok hz
    have sameService : '/' ∉ k.service.toList := hks ▸ (segment_of_checkService hs).noSlash
    have otherZone : '/' ∉ k.zone.toList := hkz ▸ (segment_of_checkZone hz').noSlash
    have := (ks.zoneScanStart_prefix_iff (segment_of_checkService hs).noSlash
      (segment_of_checkZone hz).noSlash sameService otherZone).1 under
    exact hne (this.2.symm.trans hkz)

/-- Under the default prefixes with trailing slashes: an endpoint at the address `desc` reads back
as an endpoint, and version `1.00` of a service is not under the scan start of version `1.0`. -/
theorem desc_address_and_longer_version_read_apart :
    let ks := KeySpace.make "/services/" "/configs/"
    let k : ServiceKey := ⟨"orders:1.0", "dc-1", .node "desc"⟩
    checkServiceZone k.service k.zone = .ok () ∧ AddressPolicy.check {} "desc" = .ok () ∧
      ks.decode (ks.encode k) = some k ∧
      checkService "orders:1.00" = .ok () ∧
      ¬ (ks.serviceScanStart "orders:1.0").toList <+:
        (ks.encode ⟨"orders:1.00", "dc-1", .descriptor⟩).toList :=
  let round := service_keys_round_trip (KeySpace.make "/services/" "/configs/")
  ⟨rfl, rfl, round.1 {} ⟨"orders:1.0", "dc-1", .node "desc"⟩ rfl (fun _ h => by cases h; rfl),
    rfl, round.2.2.1 "orders:1.0" "orders:1.00" ⟨"orders:1.00", "dc-1", .descriptor⟩ rfl rfl
      (by decide) rfl⟩

end ControlPlane
