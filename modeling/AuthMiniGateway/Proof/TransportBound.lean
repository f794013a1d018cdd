import AuthMiniGateway.Lib.Custody
import AuthMiniGateway.UpstreamPermits

namespace AuthMiniGateway

/-! ### The pool -/

namespace PoolEntry

variable {pool rest : List PoolEntry} {transport generation : Nat}

theorem takeH1_perm (h : takeH1 pool = some (transport, rest)) :
    pool.Perm (.h1 transport :: rest) := by
  induction pool generalizing rest with
  | nil => cases h
  | cons entry pool ih =>
    have hskip {later : List PoolEntry}
        (hrest : (takeH1 pool).map (fun taken => (taken.1, entry :: taken.2)) = some (transport, later)) :
        (entry :: pool).Perm (.h1 transport :: later) := by
      obtain ⟨⟨found, left⟩, hfound, heq⟩ := Option.map_eq_some_iff.mp hrest
      cases heq
      exact ((ih hfound).cons entry).trans (List.Perm.swap _ _ _)
    cases entry with
    | h1 =>
      cases h
      exact List.Perm.refl _
    | h2 | retiringH2 => exact hskip h

theorem length_retire (generation : Nat) (pool : List PoolEntry) :
    (retire generation pool).length = pool.length := by
  induction pool with
  | nil => rfl
  | cons _ _ ih =>
    unfold retire
    split
    · rfl
    · rw [List.length_cons, ih, List.length_cons]

theorem transport_retire (generation : Nat) (pool : List PoolEntry) :
    (retire generation pool).map PoolEntry.transport = pool.map PoolEntry.transport := by
  induction pool with
  | nil => rfl
  | cons _ _ ih =>
    unfold retire
    split
    · next heq =>
      rw [heq]
      rfl
    · rw [List.map_cons, ih, List.map_cons]

theorem mem_retire {entry : PoolEntry} (h : entry ∈ retire generation pool) :
    entry ∈ pool ∨ entry = .retiringH2 generation ∧ .h2 generation ∈ pool := by
  induction pool with
  | nil => exact .inl h
  | cons _ _ ih =>
    unfold retire at h
    split at h
    · next heq =>
      rcases List.mem_cons.mp h with rfl | hrest
      · exact .inr ⟨rfl, heq ▸ List.mem_cons_self⟩
      · exact .inl (List.mem_cons_of_mem _ hrest)
    · rcases List.mem_cons.mp h with rfl | hrest
      · exact .inl List.mem_cons_self
      · rcases ih hrest with hold | ⟨hnew, hentry⟩
        · exact .inl (List.mem_cons_of_mem _ hold)
        · exact .inr ⟨hnew, List.mem_cons_of_mem _ hentry⟩

theorem not_mem_retire (hnodup : (pool.map PoolEntry.transport).Nodup) :
    .h2 generation ∉ retire generation pool := by
  induction pool with
  | nil => exact List.not_mem_nil
  | cons _ _ ih =>
    obtain ⟨hfirst, hrest⟩ := List.nodup_cons.mp hnodup
    unfold retire
    split
    · next heq =>
      intro hmem
      rcases List.mem_cons.mp hmem with heq' | hlater
      · cases heq'
      · rw [heq] at hfirst
        exact hfirst (List.mem_map.mpr ⟨_, hlater, rfl⟩)
    · next hne =>
      intro hmem
      rcases List.mem_cons.mp hmem with heq | hlater
      · exact hne heq.symm
      · exact ih hrest hlater

theorem mem_generations (h : generation ∈ generations pool) : .h2 generation ∈ pool := by
  obtain ⟨entry, hmem, heq⟩ := List.mem_filterMap.mp h
  cases entry with
  | h1 => cases heq
  | h2 =>
    cases heq
    exact hmem
  | retiringH2 => cases heq

end PoolEntry

/-! ### Holders -/

def PermitHolder.covers : PermitHolder → Option Nat
  | .probing transport _ | .rejoining transport _ | .dialed transport | .connected transport
  | .handshaking _ transport | .gate transport | .taken transport | .h1 transport | .parking transport
  | .retiring transport | .awaitingDrop transport => some transport
  | .spawning transport published => if published then none else some transport
  | .h2 generation privateGeneration => if privateGeneration then some generation else none
  | _ => none

def PermitHolder.last : PermitHolder → Option Nat
  | .placed transport => some transport
  | .returning transport => transport
  | holder => holder.covers

namespace Upstream

def places (s : Upstream) : List Nat :=
  s.holders.filterMap PermitHolder.covers ++ s.pool.map PoolEntry.transport

def HolderHolds (s : Upstream) : PermitHolder → Prop
  | .candidates generations => ∀ g ∈ generations, s.published g = true
  | .dialed t | .connected t | .handshaking _ t | .gate t
  | .taken t => s.published t = false ∧ s.driver t = .unspawned
  | .spawning t published =>
    s.published t = published ∧ (published = false → s.driver t = .unspawned)
  | .h2 g privateGeneration => s.published g = !privateGeneration
  | .probing t _ | .rejoining t _ | .h1 t | .parking t | .retiring t
  | .awaitingDrop t => s.published t = false
  | .returning (some t) => t < s.nextTransport ∧ (t ∉ s.transports ∨ s.published t = true)
  | _ => True

def EntryHolds (s : Upstream) : PoolEntry → Prop
  | .h1 t => s.published t = false
  | .h2 g | .retiringH2 g => s.published g = true

def DriverHolds (s : Upstream) (g : Nat) : DriverStage → Prop
  | .waiting => .h2 g ∉ s.pool
  | .removed | .finished => ∀ entry ∈ s.pool, entry.generation ≠ some g
  | _ => True

structure Inv (s : Upstream) : Prop where
  custody : Custody s.transports s.places
  limit : s.holders.length ≤ s.activeLimit
  capacity : s.pool.length ≤ upstreamIdlePoolCapacity
  fresh : ∀ t, s.nextTransport ≤ t → t ∉ s.places ∧ s.published t = false ∧ s.driver t = .unspawned
  holders : ∀ holder ∈ s.holders, s.HolderHolds holder
  entries : ∀ entry ∈ s.pool, s.EntryHolds entry
  drivers : ∀ g, s.DriverHolds g (s.driver g)

variable {s next : Upstream} {i t : Nat} {holder h h' : PermitHolder}

def others (s : Upstream) (i : Nat) : List Nat :=
  (s.holders.eraseIdx i).filterMap PermitHolder.covers ++ s.pool.map PoolEntry.transport

theorem holders_perm (hat : s.holders[i]? = some h) : s.holders.Perm (h :: s.holders.eraseIdx i) := by
  obtain ⟨hi, rfl⟩ := List.getElem?_eq_some_iff.mp hat
  exact (List.getElem_cons_eraseIdx_perm hi).symm

theorem put_perm (hat : s.holders[i]? = some h) (h' : PermitHolder) :
    (s.put i h').holders.Perm (h' :: s.holders.eraseIdx i) := by
  obtain ⟨hi, _⟩ := List.getElem?_eq_some_iff.mp hat
  have hset : (s.put i h').holders[i]? = some h' := by
    rw [put, List.getElem?_set_self hi]
  have hperm := holders_perm hset
  rwa [put, List.eraseIdx_set_eq] at hperm

theorem filterMap_covers_perm {holders rest : List PermitHolder} (hperm : holders.Perm (h :: rest)) :
    (holders.filterMap PermitHolder.covers).Perm
      (h.covers.toList ++ rest.filterMap PermitHolder.covers) := by
  refine (hperm.filterMap _).trans (List.Perm.of_eq ?_)
  cases hcovers : h.covers with
  | none => rw [List.filterMap_cons_none hcovers]; rfl
  | some => rw [List.filterMap_cons_some hcovers]; rfl

theorem places_perm (hat : s.holders[i]? = some h) :
    s.places.Perm (h.covers.toList ++ s.others i) := by
  rw [others, ← List.append_assoc]
  exact (filterMap_covers_perm (holders_perm hat)).append_right _

theorem places_put_perm (hat : s.holders[i]? = some h) (h' : PermitHolder) :
    (s.put i h').places.Perm (h'.covers.toList ++ s.others i) := by
  rw [others, ← List.append_assoc]
  exact (filterMap_covers_perm (put_perm hat h')).append_right _

/-! ### One holder changes -/

variable {x : PermitHolder} {g : Nat} {stage : DriverStage} {event : UpstreamEvent}

theorem mem_put (hat : s.holders[i]? = some h) (hx : x ∈ (s.put i h').holders) :
    x = h' ∨ x ∈ s.holders.eraseIdx i :=
  List.mem_cons.mp ((put_perm hat h').subset hx)

theorem mem_of_others (hx : x ∈ s.holders.eraseIdx i) : x ∈ s.holders :=
  (List.eraseIdx_sublist s.holders i).subset hx

theorem mem_at (hat : s.holders[i]? = some h) : h ∈ s.holders :=
  List.mem_of_getElem? hat

theorem Inv.held (hinv : s.Inv) (hat : s.holders[i]? = some h) : s.HolderHolds h :=
  hinv.holders h (mem_at hat)

theorem Inv.fresh_of_subset {places : List Nat} (hinv : s.Inv) (hsubset : places ⊆ s.places) (t : Nat)
    (ht : s.nextTransport ≤ t) : t ∉ places ∧ s.published t = false ∧ s.driver t = .unspawned :=
  ⟨fun hmem => (hinv.fresh t ht).1 (hsubset hmem), (hinv.fresh t ht).2⟩

theorem mem_others (hx : x ∈ s.holders.eraseIdx i) (hcovers : x.covers = some t) : t ∈ s.others i :=
  List.mem_append_left _ (List.mem_filterMap.mpr ⟨x, hx, hcovers⟩)

theorem Inv.ne_of_others {u : Nat} (hinv : s.Inv) (hat : s.holders[i]? = some h)
    (hcovers : h.covers = some t) (hx : x ∈ s.holders.eraseIdx i) (hother : x.covers = some u) :
    u ≠ t := by
  rintro rfl
  have hcustody := hinv.custody.perm (places_perm hat)
  rw [hcovers] at hcustody
  exact hcustody.not_mem (mem_others hx hother)

theorem Inv.put (hinv : s.Inv) (hat : s.holders[i]? = some h)
    (hcovers : h'.covers = h.covers ∨ h'.covers = none ∧ ∀ t, h.covers = some t → t ∉ s.transports)
    (hnew : s.HolderHolds h') : (s.put i h').Inv := by
  have hsubset : (s.put i h').places ⊆ s.places := by
    intro u hu
    apply (places_perm hat).symm.subset
    rcases List.mem_append.mp ((places_put_perm hat h').subset hu) with hown | hothers
    · rcases hcovers with heq | ⟨hnone, _⟩
      · rw [heq] at hown
        exact List.mem_append_left _ hown
      · rw [hnone] at hown
        exact absurd hown List.not_mem_nil
    · exact List.mem_append_right _ hothers
  refine ⟨?_, ?_, hinv.capacity, hinv.fresh_of_subset hsubset, fun x hx => ?_, hinv.entries,
    hinv.drivers⟩
  · refine Custody.perm ?_ (places_put_perm hat h').symm
    have hcustody := hinv.custody.perm (places_perm hat)
    rcases hcovers with heq | ⟨hnone, hgone⟩
    · rwa [heq]
    · rw [hnone]
      cases hcover : h.covers with
      | none => rwa [hcover] at hcustody
      | some u =>
        rw [hcover] at hcustody
        exact hcustody.release (hgone u hcover)
  · rw [Upstream.put, List.length_set]
    exact hinv.limit
  · rcases mem_put hat hx with rfl | hothers
    · exact hnew
    · exact hinv.holders x (mem_of_others hothers)

theorem Inv.stay (hinv : s.Inv) (hat : s.holders[i]? = some h) (hcovers : h'.covers = h.covers)
    (hnew : s.HolderHolds h') : (s.put i h').Inv :=
  hinv.put hat (.inl hcovers) hnew

theorem Inv.letGo (hinv : s.Inv) (hat : s.holders[i]? = some h) (hcovers : h.covers = some t)
    (hgone : t ∉ s.transports) (hnone : h'.covers = none) (hnew : s.HolderHolds h') :
    (s.put i h').Inv := by
  refine hinv.put hat (.inr ⟨hnone, fun u hu => ?_⟩) hnew
  cases hcovers.symm.trans hu
  exact hgone

/-! ### Other holders -/

theorem HolderHolds.frame (hx : s.HolderHolds x)
    (hpublished : ∀ u, s.published u = true → next.published u = true)
    (hprivate : ∀ u, x.covers = some u → s.published u = false → next.published u = false)
    (hdriver : ∀ u, x.covers = some u → s.published u = false → s.driver u = .unspawned →
      next.driver u = .unspawned)
    (hgone : ∀ u, u < s.nextTransport → u ∉ s.transports → u ∉ next.transports)
    (hnext : s.nextTransport ≤ next.nextTransport) : next.HolderHolds x := by
  cases x with
  | candidates => exact fun g hg => hpublished g (hx g hg)
  | dialed u | connected u | handshaking _ u | gate u
  | taken u => exact ⟨hprivate u rfl hx.1, hdriver u rfl hx.1 hx.2⟩
  | spawning u published =>
    cases published with
    | true => exact ⟨hpublished u hx.1, nofun⟩
    | false => exact ⟨hprivate u rfl hx.1, fun _ => hdriver u rfl hx.1 (hx.2 rfl)⟩
  | h2 u privateGeneration =>
    cases privateGeneration with
    | true => exact hprivate u rfl hx
    | false => exact hpublished u hx
  | probing u | rejoining u | h1 u | parking u | retiring u
  | awaitingDrop u => exact hprivate u rfl hx
  | returning transport =>
    cases transport with
    | none => trivial
    | some u =>
      obtain ⟨hlt, hdone⟩ := hx
      exact ⟨Nat.lt_of_lt_of_le hlt hnext, hdone.imp (hgone u hlt) (hpublished u)⟩
  | admitted | reselecting | connecting | resolving | resolverCleanup | dialing | placed => trivial

theorem Inv.close (hinv : s.Inv) (t : Nat) : (s.close t).Inv := by
  refine ⟨hinv.custody.close t, hinv.limit, hinv.capacity, hinv.fresh, fun x hx => ?_, hinv.entries,
    hinv.drivers⟩
  exact (hinv.holders x hx).frame (fun _ => id) (fun _ _ => id) (fun _ _ _ => id)
    (fun u _ hgone hmem => hgone (List.mem_of_mem_erase hmem)) (Nat.le_refl _)

theorem Inv.not_mem_close (hinv : s.Inv) (t : Nat) : t ∉ (s.close t).transports :=
  fun hmem => (List.Nodup.mem_erase_iff hinv.custody.opened_nodup).mp hmem |>.1 rfl

/-! ### Transports and entries come and go -/

theorem others_subset (hat : s.holders[i]? = some h) : s.others i ⊆ s.places :=
  fun _ hu => (places_perm hat).symm.subset (List.mem_append_right _ hu)

theorem Inv.dial (hinv : s.Inv) (hat : s.holders[i]? = some .dialing) :
    Inv { s.put i (.dialed s.nextTransport) with
      transports := s.nextTransport :: s.transports,
      nextTransport := s.nextTransport + 1 } := by
  obtain ⟨hplace, hpublished, hdriver⟩ := hinv.fresh s.nextTransport (Nat.le_refl _)
  have hnot : s.nextTransport ∉ s.others i := fun hmem => hplace (others_subset hat hmem)
  have hplaces := places_put_perm hat (.dialed s.nextTransport)
  refine ⟨?_, ?_, hinv.capacity, fun u hu => ?_, fun x hx => ?_, hinv.entries, hinv.drivers⟩
  · exact ((hinv.custody.perm (places_perm hat)).acquire hnot).perm hplaces.symm
  · exact (List.length_set ..).trans_le hinv.limit
  · have hold := hinv.fresh u (Nat.le_of_succ_le hu)
    refine ⟨fun hmem => ?_, hold.2⟩
    rcases List.mem_cons.mp (hplaces.subset hmem) with rfl | hothers
    · exact Nat.not_succ_le_self _ hu
    · exact hold.1 (others_subset hat hothers)
  · rcases mem_put hat hx with rfl | hothers
    · exact ⟨hpublished, hdriver⟩
    · refine (hinv.holders x (mem_of_others hothers)).frame (fun _ => id) (fun _ _ => id)
        (fun _ _ _ => id) (fun u hu hgone hmem => ?_) (Nat.le_succ _)
      rcases List.mem_cons.mp hmem with rfl | hold
      · exact Nat.lt_irrefl _ hu
      · exact hgone hold

theorem DriverHolds.mono (hg : s.DriverHolds g stage)
    (hpool : ∀ entry ∈ next.pool, entry.generation = some g → entry ∈ s.pool) :
    next.DriverHolds g stage := by
  cases stage with
  | waiting => exact fun hmem => hg (hpool _ hmem rfl)
  | removed | finished => exact fun entry hmem heq => hg entry (hpool entry hmem heq) heq
  | unspawned | running | dropped => trivial

theorem Inv.takeIdle {tries : Nat} {rest : List PoolEntry} (hinv : s.Inv)
    (hat : s.holders[i]? = some (.reselecting (tries + 1)))
    (htake : PoolEntry.takeH1 s.pool = some (t, rest)) :
    Inv { s.put i (.probing t tries) with pool := rest } := by
  have hpool := PoolEntry.takeH1_perm htake
  have hsubset : ∀ entry ∈ rest, entry ∈ s.pool := fun entry hmem =>
    hpool.symm.subset (List.mem_cons_of_mem _ hmem)
  have hplaces : s.places.Perm (Upstream.places { s.put i (.probing t tries) with pool := rest }) := by
    have hold : s.places.Perm
        ((s.holders.eraseIdx i).filterMap PermitHolder.covers ++ s.pool.map PoolEntry.transport) :=
      places_perm hat
    have hput := filterMap_covers_perm (put_perm hat (.probing t tries))
    refine hold.trans (((hpool.map PoolEntry.transport).append_left _).trans ?_)
    exact List.perm_middle.trans (hput.append_right _).symm
  refine ⟨hinv.custody.perm hplaces, ?_, ?_, hinv.fresh_of_subset hplaces.symm.subset,
    fun x hx => ?_, ?_, fun g => ?_⟩
  · exact (List.length_set ..).trans_le hinv.limit
  · have hlength := hpool.length_eq.symm.trans_le hinv.capacity
    exact Nat.le_of_succ_le hlength
  · rcases mem_put hat hx with rfl | hothers
    · exact hinv.entries _ (hpool.symm.subset List.mem_cons_self)
    · exact hinv.holders x (mem_of_others hothers)
  · exact fun entry hmem => hinv.entries entry (hsubset entry hmem)
  · exact (hinv.drivers g).mono fun entry hmem _ => hsubset entry hmem

theorem mem_places_at (hat : s.holders[i]? = some h) (hcovers : h.covers = some t) : t ∈ s.places :=
  List.mem_append_left _ (List.mem_filterMap.mpr ⟨h, mem_at hat, hcovers⟩)

theorem Inv.ne_of_entry {entry : PoolEntry} (hinv : s.Inv) (hat : s.holders[i]? = some h)
    (hcovers : h.covers = some t) (hmem : entry ∈ s.pool) : entry.transport ≠ t := by
  rintro rfl
  have hcustody := hinv.custody.perm (places_perm hat)
  rw [hcovers] at hcustody
  have hother : entry.transport ∈ s.others i :=
    List.mem_append_right _ (List.mem_map_of_mem hmem)
  exact hcustody.not_mem hother

theorem Inv.lt_of_mem (hinv : s.Inv) (hmem : t ∈ s.places) : t < s.nextTransport := by
  by_contra hle
  exact (hinv.fresh t (Nat.le_of_not_lt hle)).1 hmem

theorem Inv.lt_of_published (hinv : s.Inv) (hpublished : s.published t = true) :
    t < s.nextTransport := by
  by_contra hle
  have hnot := (hinv.fresh t (Nat.le_of_not_lt hle)).2.1
  cases hnot.symm.trans hpublished

/-- The transport of a holder goes into the pool. -/
theorem Inv.handOver {entry : PoolEntry} {published : Nat → Bool} (hinv : s.Inv)
    (hat : s.holders[i]? = some h)
    (hnext : next = { s with holders := s.holders.set i h', pool := s.pool ++ [entry], published })
    (hcovers : h.covers = some entry.transport) (hnone : h'.covers = none)
    (hroom : s.pool.length < upstreamIdlePoolCapacity)
    (hkept : ∀ u, u ≠ entry.transport → published u = s.published u)
    (hstays : ∀ u, s.published u = true → published u = true) (hnew : next.HolderHolds h')
    (hentry : next.EntryHolds entry)
    (hdriver : ∀ g, entry.generation = some g → s.driver g = .unspawned) : next.Inv := by
  have hplaces : s.places.Perm next.places := by
    have hold := places_perm hat
    have hput := filterMap_covers_perm (put_perm hat h')
    rw [hnone] at hput
    rw [hcovers, others] at hold
    have hnew : next.places = (s.put i h').places ++ [entry.transport] := by
      rw [hnext, places, List.map_append, ← List.append_assoc]
      rfl
    rw [hnew]
    refine hold.trans ((List.perm_append_singleton _ _).symm.trans ?_)
    exact (hput.symm.append_right _).append_right _
  subst hnext
  refine ⟨hinv.custody.perm hplaces, ?_, ?_, fun u hu => ?_, fun x hx => ?_, fun other hmem => ?_,
    fun g => ?_⟩
  · exact (List.length_set ..).trans_le hinv.limit
  · exact (List.length_append ..).trans_le hroom
  · obtain ⟨hplace, hprivate, hunspawned⟩ := hinv.fresh_of_subset hplaces.symm.subset u hu
    have hne : u ≠ entry.transport := by
      rintro rfl
      exact (hinv.fresh _ hu).1 (mem_places_at hat hcovers)
    exact ⟨hplace, (hkept u hne).trans hprivate, hunspawned⟩
  · rcases mem_put hat hx with rfl | hothers
    · exact hnew
    · refine (hinv.holders x (mem_of_others hothers)).frame hstays (fun u hother hu => ?_)
        (fun _ _ _ => id) (fun _ _ => id) (Nat.le_refl _)
      exact (hkept u (hinv.ne_of_others hat hcovers hothers hother)).trans hu
  · rcases List.mem_append.mp hmem with hold | hlast
    · have hother := hinv.entries other hold
      have hne := hinv.ne_of_entry hat hcovers hold
      cases other with
      | h1 u => exact (hkept u hne).trans hother
      | h2 g | retiringH2 g => exact hstays g hother
    · rwa [List.mem_singleton.mp hlast]
  · by_cases hg : entry.generation = some g
    · change Upstream.DriverHolds _ g (s.driver g)
      rw [hdriver g hg]
      trivial
    · refine (hinv.drivers g).mono fun other hmem hgeneration => ?_
      rcases List.mem_append.mp hmem with hold | hlast
      · exact hold
      · rw [List.mem_singleton.mp hlast] at hgeneration
        exact absurd hgeneration hg

theorem Inv.parked (hinv : s.Inv) (hat : s.holders[i]? = some (.parking t))
    (hroom : s.pool.length < upstreamIdlePoolCapacity) : ((s.park t).put i (.placed t)).Inv :=
  hinv.handOver hat rfl rfl rfl hroom (fun _ _ => rfl) (fun _ => id) trivial (hinv.held hat) nofun

theorem Inv.published (hinv : s.Inv) (hat : s.holders[i]? = some (.taken t))
    (hroom : s.pool.length < upstreamIdlePoolCapacity) :
    ((s.publish t).put i (.spawning t true)).Inv := by
  have hnow : (s.publish t).published t = true := Function.update_self ..
  have hkept (u : Nat) (hne : u ≠ t) : (s.publish t).published u = s.published u :=
    Function.update_of_ne hne _ _
  refine hinv.handOver hat rfl rfl rfl hroom hkept (fun u hu => ?_) ⟨hnow, nofun⟩ hnow fun g hg => ?_
  · by_cases hut : u = t
    · rw [hut, hnow]
    · rw [hkept u hut, hu]
  · rw [← Option.some.inj hg]
    exact (hinv.held hat).2

/-! ### Drivers -/

theorem Inv.spawned {published : Bool} (hinv : s.Inv)
    (hat : s.holders[i]? = some (.spawning t published)) :
    ((s.setDriver t .running).put i (.h2 t (!published))).Inv := by
  have hheld := hinv.held hat
  have hlt : t < s.nextTransport := by
    cases published with
    | true => exact hinv.lt_of_published hheld.1
    | false => exact hinv.lt_of_mem (mem_places_at hat rfl)
  have hput : (s.put i (.h2 t (!published))).Inv := by
    refine hinv.stay hat ?_ ?_
    · cases published <;> rfl
    · exact hheld.1.trans (Bool.not_not published).symm
  have hkept (u : Nat) (hne : u ≠ t) : (s.setDriver t .running).driver u = s.driver u :=
    Function.update_of_ne hne _ _
  refine ⟨hput.custody, hput.limit, hput.capacity, fun u hu => ?_, fun x hx => ?_, hput.entries,
    fun g => ?_⟩
  · have hne : u ≠ t := fun heq => Nat.not_lt_of_le hu (heq ▸ hlt)
    exact ⟨(hput.fresh u hu).1, (hput.fresh u hu).2.1, (hkept u hne).trans (hput.fresh u hu).2.2⟩
  · rcases mem_put hat hx with rfl | hothers
    · exact hheld.1.trans (Bool.not_not published).symm
    · refine (hinv.holders x (mem_of_others hothers)).frame (fun _ => id) (fun _ _ => id)
        (fun u hcovers hprivate hunspawned => ?_) (fun _ _ => id) (Nat.le_refl _)
      refine (hkept u ?_).trans hunspawned
      cases published with
      | true =>
        rintro rfl
        cases hprivate.symm.trans hheld.1
      | false => exact hinv.ne_of_others hat rfl hothers hcovers
  · by_cases hg : g = t
    · have hrunning : (s.setDriver t .running).driver g = .running := by
        rw [hg]
        exact Function.update_self ..
      change Upstream.DriverHolds _ g ((s.setDriver t .running).driver g)
      rw [hrunning]
      trivial
    · change Upstream.DriverHolds _ g ((s.setDriver t .running).driver g)
      rw [hkept g hg]
      exact hinv.drivers g

theorem Inv.setDriver (hinv : s.Inv) (hspawned : s.driver g ≠ .unspawned)
    (hstage : s.DriverHolds g stage) : (s.setDriver g stage).Inv := by
  have hkept (u : Nat) (hu : s.driver u = .unspawned) : (s.setDriver g stage).driver u = .unspawned := by
    have hne : u ≠ g := fun heq => hspawned (heq ▸ hu)
    exact (Function.update_of_ne hne _ _).trans hu
  refine ⟨hinv.custody, hinv.limit, hinv.capacity, fun u hu => ?_, fun x hx => ?_, hinv.entries,
    fun u => ?_⟩
  · exact ⟨(hinv.fresh u hu).1, (hinv.fresh u hu).2.1, hkept u (hinv.fresh u hu).2.2⟩
  · exact (hinv.holders x hx).frame (fun _ => id) (fun _ _ => id) (fun u _ _ => hkept u)
      (fun _ _ => id) (Nat.le_refl _)
  · change Upstream.DriverHolds _ u (Function.update s.driver g stage u)
    by_cases hu : u = g
    · rw [hu, Function.update_self]
      exact hstage
    · rw [Function.update_of_ne hu]
      exact hinv.drivers u

theorem Inv.retireH2Generation (hinv : s.Inv) (g : Nat) : (s.retireH2Generation g).Inv := by
  unfold Upstream.retireH2Generation
  split
  · have hplaces : Upstream.places { s with pool := PoolEntry.retire g s.pool } = s.places := by
      rw [places, PoolEntry.transport_retire]
      rfl
    refine ⟨hplaces ▸ hinv.custody, hinv.limit, ?_, fun u hu => ?_, hinv.holders,
      fun entry hmem => ?_, fun u => ?_⟩
    · rw [PoolEntry.length_retire]
      exact hinv.capacity
    · rw [hplaces]
      exact hinv.fresh u hu
    · rcases PoolEntry.mem_retire hmem with hold | ⟨rfl, hentry⟩
      · exact hinv.entries entry hold
      · exact hinv.entries _ hentry
    · have hold := hinv.drivers u
      change Upstream.DriverHolds _ u (s.driver u)
      generalize s.driver u = stage at hold ⊢
      have hgeneration (h : ∀ entry ∈ s.pool, entry.generation ≠ some u) :
          ∀ entry ∈ PoolEntry.retire g s.pool, entry.generation ≠ some u := by
        intro entry hmem heq
        rcases PoolEntry.mem_retire hmem with hin | ⟨rfl, hentry⟩
        · exact h entry hin heq
        · exact h _ hentry heq
      cases stage with
      | waiting =>
        intro hmem
        rcases PoolEntry.mem_retire hmem with hin | ⟨heq, _⟩
        · exact hold hin
        · cases heq
      | removed | finished => exact hgeneration hold
      | unspawned | running | dropped => trivial
  · exact hinv

theorem retireH2Generation_frame (g : Nat) :
    (s.retireH2Generation g).driver = s.driver ∧ (s.retireH2Generation g).holders = s.holders ∧
      (s.retireH2Generation g).published = s.published ∧
      (s.retireH2Generation g).activeLimit = s.activeLimit := by
  unfold Upstream.retireH2Generation
  split <;> exact ⟨rfl, rfl, rfl, rfl⟩

theorem Inv.generation_ne (hinv : s.Inv) (hpublished : ¬ s.published g = true) :
    ∀ entry ∈ s.pool, entry.generation ≠ some g := by
  intro entry hmem heq
  have hentry := hinv.entries entry hmem
  cases entry with
  | h1 => cases heq
  | h2 | retiringH2 =>
    cases heq
    exact hpublished hentry

theorem Inv.not_selectable (hinv : s.Inv) : .h2 g ∉ (s.retireH2Generation g).pool := by
  unfold Upstream.retireH2Generation
  split
  · exact PoolEntry.not_mem_retire (List.Nodup.of_append_right hinv.custody.places_nodup)
  · next hpublished => exact fun hmem => hinv.generation_ne hpublished _ hmem rfl

theorem Inv.removeRetiringH2Slot (hinv : s.Inv) (hgone : g ∉ s.transports) :
    (s.removeRetiringH2Slot g).Inv := by
  unfold Upstream.removeRetiringH2Slot
  split
  · have hsub : List.Sublist (PoolEntry.removeRetiring g s.pool) s.pool := List.filter_sublist
    have hplaces : List.Sublist
        (Upstream.places { s with pool := PoolEntry.removeRetiring g s.pool }) s.places :=
      (hsub.map _).append_left _
    refine ⟨⟨hinv.custody.opened_nodup, hinv.custody.places_nodup.sublist hplaces, fun u hu => ?_⟩,
      hinv.limit, hsub.length_le.trans hinv.capacity, hinv.fresh_of_subset hplaces.subset,
      hinv.holders, fun entry hmem => ?_, fun u => ?_⟩
    · rcases List.mem_append.mp (hinv.custody.covered hu) with hheld | hpool
      · exact List.mem_append_left _ hheld
      · obtain ⟨entry, hmem, rfl⟩ := List.mem_map.mp hpool
        refine List.mem_append_right _ (List.mem_map_of_mem (List.mem_filter.mpr ⟨hmem, ?_⟩))
        refine decide_eq_true ?_
        rintro rfl
        exact hgone hu
    · exact hinv.entries entry (hsub.subset hmem)
    · exact (hinv.drivers u).mono fun entry hmem _ => hsub.subset hmem
  · exact hinv

theorem removeRetiringH2Slot_driver (g : Nat) : (s.removeRetiringH2Slot g).driver = s.driver := by
  unfold Upstream.removeRetiringH2Slot
  split <;> rfl

theorem Inv.not_named (hinv : s.Inv) (hwaiting : .h2 g ∉ s.pool) :
    ∀ entry ∈ (s.removeRetiringH2Slot g).pool, entry.generation ≠ some g := by
  unfold Upstream.removeRetiringH2Slot
  split
  · intro entry hmem heq
    obtain ⟨hold, hkept⟩ := List.mem_filter.mp hmem
    cases entry with
    | h1 => cases heq
    | h2 =>
      cases heq
      exact hwaiting hold
    | retiringH2 =>
      cases heq
      exact of_decide_eq_true hkept rfl
  · next hpublished => exact hinv.generation_ne hpublished

theorem Inv.driven (hinv : s.Inv) (hdriver : s.driver g = stage)
    (hdriven : s.driven g stage = some next) : next.Inv := by
  have hstage : s.DriverHolds g stage := hdriver ▸ hinv.drivers g
  cases stage with
  | unspawned | finished => cases hdriven
  | running =>
    cases hdriven
    exact hinv.setDriver (by rw [hdriver]; decide) trivial
  | dropped =>
    cases hdriven
    refine (hinv.retireH2Generation g).setDriver ?_ hinv.not_selectable
    rw [(retireH2Generation_frame g).1, hdriver]
    decide
  | waiting =>
    rw [Upstream.driven] at hdriven
    split at hdriven
    · cases hdriven
    · next hgone =>
      cases hdriven
      refine (hinv.removeRetiringH2Slot hgone).setDriver ?_ (hinv.not_named hstage)
      rw [removeRetiringH2Slot_driver, hdriver]
      decide
  | removed =>
    cases hdriven
    exact hinv.setDriver (by rw [hdriver]; decide) hstage

/-! ### One step -/

theorem Inv.arrive (hinv : s.Inv) (hroom : s.holders.length < s.activeLimit) :
    Inv { s with holders := s.holders ++ [.admitted] } := by
  have hplaces : Upstream.places { s with holders := s.holders ++ [.admitted] } = s.places := by
    rw [places, List.filterMap_append]
    exact congrArg (· ++ _) (List.append_nil _)
  refine ⟨hplaces ▸ hinv.custody, (List.length_append ..).trans_le hroom, hinv.capacity,
    fun u hu => ?_, fun x hx => ?_, hinv.entries, hinv.drivers⟩
  · rw [hplaces]
    exact hinv.fresh u hu
  · rcases List.mem_append.mp hx with hold | hnew
    · exact hinv.holders x hold
    · rw [List.mem_singleton.mp hnew]
      trivial

theorem Inv.release (hinv : s.Inv) (hat : s.holders[i]? = some h) (hcovers : h.covers = none) :
    Inv { s with holders := s.holders.eraseIdx i } := by
  have hplaces := places_perm hat
  rw [hcovers] at hplaces
  refine ⟨hinv.custody.perm hplaces, ?_, hinv.capacity, hinv.fresh_of_subset hplaces.symm.subset,
    fun x hx => ?_, hinv.entries, hinv.drivers⟩
  · exact (List.eraseIdx_sublist s.holders i).length_le.trans hinv.limit
  · exact hinv.holders x (mem_of_others hx)

theorem Inv.abandon (hinv : s.Inv) (hat : s.holders[i]? = some h) (hcovers : h.covers = some t) :
    (s.abandon i t).Inv := by
  have hgone := hinv.not_mem_close t
  exact (hinv.close t).letGo hat hcovers hgone rfl
    ⟨hinv.lt_of_mem (mem_places_at hat hcovers), .inl hgone⟩

theorem Inv.finish {call : FinishCall} (hinv : s.Inv) (hat : s.holders[i]? = some h)
    (hresource : h.resource call.resource.sender = some call.resource) :
    (s.put i (h.finished (finishExchangeResource call))).Inv := by
  obtain ⟨resource, reusable, reason⟩ := call
  have hheld := hinv.held hat
  cases h with
  | h1 =>
    cases resource with
    | h2 => cases hresource
    | h1 =>
      cases reusable with
      | true | false => exact hinv.stay hat rfl hheld
  | h2 g privateGeneration =>
    obtain ⟨sender, rfl⟩ : ∃ sender, resource = .h2 sender privateGeneration :=
      ⟨_, (Option.some.inj hresource).symm⟩
    cases privateGeneration with
    | true => exact hinv.stay hat rfl hheld
    | false => exact hinv.stay hat rfl ⟨hinv.lt_of_published hheld, .inr hheld⟩
  | _ => cases hresource

theorem Inv.cancel (hinv : s.Inv) (hat : s.holders[i]? = some h)
    (hcancel : s.cancelled i h = some next) : next.Inv := by
  have hheld := hinv.held hat
  cases h with
  | probing t | rejoining t => cases hcancel; exact hinv.stay hat rfl hheld
  | resolving | dialing => cases hcancel; exact hinv.stay hat rfl trivial
  | dialed t | handshaking protocol t => cases hcancel; exact hinv.abandon hat rfl
  | gate => cases hcancel; exact hinv.stay hat rfl hheld.1
  | _ => cases hcancel

theorem Step.inv (hstep : Step s event next) (hinv : s.Inv) : next.Inv := by
  cases hstep with
  | arrive hroom => exact hinv.arrive hroom
  | scan hat =>
    refine hinv.stay hat rfl fun g hg => ?_
    split at hg
    · exact hinv.entries _ (PoolEntry.mem_generations hg)
    · exact absurd hg List.not_mem_nil
  | reserved hat =>
    exact hinv.stay hat rfl (hinv.held hat _ List.mem_cons_self)
  | saturated hat =>
    exact hinv.stay hat rfl fun g hg => hinv.held hat g (List.mem_cons_of_mem _ hg)
  | @closed _ generation _ hat =>
    have hheld := hinv.held hat
    have hretired := hinv.retireH2Generation generation
    obtain ⟨_, hholders, hpublished, _⟩ := retireH2Generation_frame (s := s) generation
    rw [← hholders] at hat
    refine hretired.stay hat rfl fun g hg => ?_
    rw [hpublished]
    exact hheld g (List.mem_cons_of_mem _ hg)
  | skipReserve hat =>
    split
    · exact hinv.stay hat rfl trivial
    · exact hinv.stay hat rfl trivial
  | takeIdle hat htake => exact hinv.takeIdle hat htake
  | noIdle hat | resolverJoined hat | notDialed hat => exact hinv.stay hat rfl trivial
  | probed ready hat =>
    have hheld := hinv.held hat
    cases ready with
    | true | false => exact hinv.stay hat rfl hheld
  | rejoined hat hgone => exact hinv.letGo hat rfl hgone rfl trivial
  | lookup lookup hat =>
    cases lookup with
    | address | domain | saturated => exact hinv.stay hat rfl trivial
  | resolved resolution hat =>
    cases resolution with
    | addresses | error | timeout => exact hinv.stay hat rfl trivial
  | dial hat => exact hinv.dial hat
  | @nextAddress _ transport hat =>
    exact (hinv.close transport).letGo hat rfl (hinv.not_mem_close transport) rfl trivial
  | dialed hat | negotiated _ hat | notParked _ hat =>
    have hheld := hinv.held hat
    exact hinv.stay hat rfl hheld
  | dialFailed hat | mismatched hat | notShaken hat => exact hinv.abandon hat rfl
  | @shaken _ protocol _ hat =>
    have hheld := hinv.held hat
    cases protocol with
    | http1 => exact hinv.stay hat rfl hheld.1
    | http2 => exact hinv.stay hat rfl hheld
  | proved ok hat =>
    have hheld := hinv.held hat
    cases ok with
    | true => exact hinv.stay hat rfl hheld
    | false => exact hinv.stay hat rfl hheld.1
  | published hat hroom => exact hinv.published hat hroom
  | notPublished _ hat =>
    have hheld := hinv.held hat
    exact hinv.stay hat rfl ⟨hheld.1, fun _ => hheld.2⟩
  | spawnDriver hat => exact hinv.spawned hat
  | finish hat hresource => exact hinv.finish hat hresource
  | parked hat hroom => exact hinv.parked hat hroom
  | joined hat hgone | transportDropped hat hgone =>
    exact hinv.letGo hat rfl hgone rfl ⟨hinv.lt_of_mem (mem_places_at hat rfl), .inl hgone⟩
  | cancel hat hcancel => exact hinv.cancel hat hcancel
  | release hat | releasePlaced hat => exact hinv.release hat rfl
  | drop transport => exact hinv.close transport
  | retireH2Generation generation => exact hinv.retireH2Generation generation
  | driver hdriven => exact hinv.driven rfl hdriven

theorem inv_new (protocol : UpstreamProtocol) (limit : Nat) : (new protocol limit).Inv :=
  { custody := ⟨List.nodup_nil, List.nodup_nil, List.nil_subset _⟩
    limit := Nat.zero_le _
    capacity := Nat.zero_le _
    fresh := fun _ _ => ⟨List.not_mem_nil, rfl, rfl⟩
    holders := fun _ hmem => absurd hmem List.not_mem_nil
    entries := fun _ hmem => absurd hmem List.not_mem_nil
    drivers := fun _ => trivial }

/-! ### The limit, and what was parked -/

theorem cancelled_frame (hcancel : s.cancelled i h = some next) :
    next.activeLimit = s.activeLimit ∧
      ∃ h', next.holders = s.holders.set i h' ∧ ∀ t, h' ≠ .placed t := by
  cases h with
  | probing | rejoining | resolving | dialing | dialed | handshaking
  | gate => cases hcancel; exact ⟨rfl, _, rfl, nofun⟩
  | _ => cases hcancel

theorem driven_frame (hdriven : s.driven g stage = some next) :
    next.activeLimit = s.activeLimit ∧ next.holders = s.holders := by
  cases stage with
  | running | removed => cases hdriven; exact ⟨rfl, rfl⟩
  | dropped =>
    cases hdriven
    obtain ⟨_, hholders, _, hlimit⟩ := retireH2Generation_frame (s := s) g
    exact ⟨hlimit, hholders⟩
  | waiting =>
    rw [Upstream.driven] at hdriven
    split at hdriven
    · cases hdriven
    · cases hdriven
      unfold Upstream.removeRetiringH2Slot
      split <;> exact ⟨rfl, rfl⟩
  | unspawned | finished => cases hdriven

theorem Step.activeLimit (hstep : Step s event next) : next.activeLimit = s.activeLimit := by
  cases hstep with
  | closed | retireH2Generation => exact (retireH2Generation_frame _).2.2.2
  | cancel _ hcancel => exact (cancelled_frame hcancel).1
  | driver hdriven => exact (driven_frame hdriven).1
  | _ => rfl

theorem placed_of_set {holders : List PermitHolder} (hmem : .placed t ∈ holders.set i h')
    (hne : h' ≠ .placed t) : .placed t ∈ holders := by
  rcases List.mem_or_eq_of_mem_set hmem with hold | heq
  · exact hold
  · exact absurd heq.symm hne

theorem finished_ne_placed {call : FinishCall}
    (hresource : h.resource call.resource.sender = some call.resource) (outcome : Finish) :
    h.finished outcome ≠ .placed t := by
  cases h with
  | h1 | h2 => cases outcome <;> nofun
  | _ => cases hresource

theorem Step.placed (hstep : Step s event next) (hmem : .placed t ∈ next.holders) :
    .placed t ∈ s.holders ∨ ∃ i, event = .parked i t := by
  cases hstep with
  | arrive =>
    rcases List.mem_append.mp hmem with hold | hnew
    · exact .inl hold
    · cases List.mem_singleton.mp hnew
  | closed =>
    have hold := placed_of_set hmem nofun
    rw [(retireH2Generation_frame _).2.1] at hold
    exact .inl hold
  | parked =>
    rcases List.mem_or_eq_of_mem_set hmem with hold | heq
    · exact .inl hold
    · cases heq
      exact .inr ⟨_, rfl⟩
  | finish _ hresource => exact .inl (placed_of_set hmem (finished_ne_placed hresource _))
  | cancel _ hcancel =>
    obtain ⟨_, h', hholders, hne⟩ := cancelled_frame hcancel
    rw [hholders] at hmem
    exact .inl (placed_of_set hmem (hne t))
  | release | releasePlaced => exact .inl (mem_of_others hmem)
  | drop => exact .inl hmem
  | retireH2Generation =>
    rw [(retireH2Generation_frame _).2.1] at hmem
    exact .inl hmem
  | driver hdriven =>
    rw [(driven_frame hdriven).2] at hmem
    exact .inl hmem
  | skipReserve | probed | lookup | resolved | shaken
  | proved => exact .inl (placed_of_set hmem (by split <;> nofun))
  | _ => exact .inl (placed_of_set hmem nofun)

/-! ### Releases -/

theorem HolderHolds.unpublished (hh : s.HolderHolds h) (hcovers : h.covers = some t) :
    s.published t = false := by
  cases h with
  | dialed | connected | handshaking | gate | taken => cases hcovers; exact hh.1
  | spawning u published =>
    cases published with
    | true => cases hcovers
    | false => cases hcovers; exact hh.1
  | h2 u privateGeneration =>
    cases privateGeneration with
    | true => cases hcovers; exact hh
    | false => cases hcovers
  | probing | rejoining | h1 | parking | retiring | awaitingDrop => cases hcovers; exact hh
  | _ => cases hcovers

theorem Inv.entry_of_published (hinv : s.Inv) (hpublished : s.published t = true)
    (hopen : t ∈ s.transports) : ∃ entry ∈ s.pool, entry.generation = some t := by
  rcases List.mem_append.mp (hinv.custody.covered hopen) with hheld | hpool
  · obtain ⟨x, hx, hcovers⟩ := List.mem_filterMap.mp hheld
    cases ((hinv.holders x hx).unpublished hcovers).symm.trans hpublished
  · obtain ⟨entry, hmem, rfl⟩ := List.mem_map.mp hpool
    have hentry := hinv.entries entry hmem
    cases entry with
    | h1 => cases hentry.symm.trans hpublished
    | h2 | retiringH2 => exact ⟨_, hmem, rfl⟩

end Upstream

/-- **Transports and permits.** In every run of the proxy: there are at most eight entries in the pool and
at most eight more open transports than permits; every open transport is covered by a held permit or by
its own entry, and by one of these only, so that an owner is in one place; no entry names a generation
whose driver has finished; and a permit is given back only when it covers no transport, the one it was
for being dropped, having its own entry as a published generation, or having been parked. -/
theorem upstream_transport_bound (protocol : UpstreamProtocol) (limit : Nat)
    {events : List UpstreamEvent} {s : Upstream}
    (hrun : upstreamSystem.Run (.new protocol limit) events s) :
    s.transports.length ≤ limit + 8 ∧
    s.pool.length ≤ 8 ∧
    (∀ t ∈ s.transports, (∃ holder ∈ s.holders, holder.covers = some t) ∨
      ∃ entry ∈ s.pool, entry.transport = t) ∧
    s.places.Nodup ∧
    (∀ g, s.driver g = .finished → ∀ entry ∈ s.pool, entry.generation ≠ some g) ∧
    (∀ i next, upstreamSystem.step s (.release i) next →
      ∃ holder, s.holders[i]? = some holder ∧ holder.covers = none ∧
        ∀ t, holder.last = some t →
          t ∉ s.transports ∨ (∃ entry ∈ s.pool, entry.generation = some t) ∨
            holder = .placed t ∧ ∃ j, .parked j t ∈ events) := by
  have hinv : s.Inv :=
    hrun.invariant Upstream.Inv (Upstream.inv_new protocol limit) fun _ _ _ h hstep => hstep.inv h
  have hlimit : s.activeLimit = limit :=
    hrun.invariant (·.activeLimit = limit) rfl fun _ _ _ h hstep => hstep.activeLimit.trans h
  have hplaced : ∀ t, .placed t ∈ s.holders → ∃ j, .parked j t ∈ events := by
    refine hrun.history (fun events s => ∀ t, .placed t ∈ s.holders → ∃ j, .parked j t ∈ events)
      (fun _ hmem => absurd hmem List.not_mem_nil) ?_
    intro events state event next ih hstep t hmem
    rcases Upstream.Step.placed hstep hmem with hold | ⟨j, rfl⟩
    · obtain ⟨j, hj⟩ := ih t hold
      exact ⟨j, List.mem_cons_of_mem _ hj⟩
    · exact ⟨j, List.mem_cons_self⟩
  refine ⟨?_, hinv.capacity, fun t ht => ?_, hinv.custody.places_nodup, fun g hg => ?_,
    fun i next hstep => ?_⟩
  · calc s.transports.length ≤ s.places.length := hinv.custody.length_le
      _ = (s.holders.filterMap PermitHolder.covers).length + s.pool.length := by
          rw [Upstream.places, List.length_append, List.length_map]
      _ ≤ s.holders.length + s.pool.length :=
          Nat.add_le_add_right (List.length_filterMap_le _ _) _
      _ ≤ limit + 8 := Nat.add_le_add (hlimit ▸ hinv.limit) hinv.capacity
  · rcases List.mem_append.mp (hinv.custody.covered ht) with hheld | hpool
    · obtain ⟨holder, hmem, hcovers⟩ := List.mem_filterMap.mp hheld
      exact .inl ⟨holder, hmem, hcovers⟩
    · obtain ⟨entry, hmem, heq⟩ := List.mem_map.mp hpool
      exact .inr ⟨entry, hmem, heq⟩
  · have hdriver := hinv.drivers g
    rw [hg] at hdriver
    exact hdriver
  · cases hstep with
    | @release _ transport hat =>
      refine ⟨_, hat, rfl, fun t ht => ?_⟩
      obtain rfl : transport = some t := ht
      obtain ⟨_, hgone | hpublished⟩ := hinv.held hat
      · exact .inl hgone
      · by_cases hopen : t ∈ s.transports
        · exact .inr (.inl (hinv.entry_of_published hpublished hopen))
        · exact .inl hopen
    | @releasePlaced _ transport hat =>
      refine ⟨_, hat, rfl, fun t ht => ?_⟩
      obtain rfl : transport = t := Option.some.inj ht
      exact .inr (.inr ⟨rfl, hplaced _ (Upstream.mem_at hat)⟩)

/-- With one permit: a connection is opened, used, parked, and taken again while the first permit has been
given back. -/
theorem upstream_transport_bound_reused :
    ∃ events s, upstreamSystem.Run (.new .http1 1) events s ∧ s.transports = [0] ∧
      s.holders = [.h1 0] ∧ s.transports.length ≤ 1 + 8 := by
  have hstart : upstreamSystem.Run (.new .http1 1) [] _ := .start
  have hselecting := ((hstart.step (.arrive (by decide))).step (.scan (i := 0) rfl)).step
    (.skipReserve (i := 0) rfl)
  have hdialing := (hselecting.step (.noIdle (i := 0) rfl (.inr rfl))).step
    (.lookup (i := 0) .address rfl)
  have hdialed := (hdialing.step (.dial (i := 0) rfl)).step (.dialed (i := 0) rfl)
  have hshaken := (hdialed.step (.negotiated (i := 0) .http1 rfl rfl)).step (.shaken (i := 0) rfl)
  have hresource : PermitHolder.resource true (.h1 0) = some (.h1 true) := rfl
  have hfinished : upstreamSystem.Run (.new .http1 1)
      (.finish 0 ⟨.h1 true, true, .nonReusableResponse⟩ :: _) _ :=
    hshaken.step (.finish (i := 0) rfl hresource)
  have hparked := (hfinished.step (.parked (i := 0) rfl (by decide))).step
    (.releasePlaced (i := 0) rfl)
  have hagain := ((hparked.step (.arrive (by decide))).step (.scan (i := 0) rfl)).step
    (.skipReserve (i := 0) rfl)
  have hrun := (hagain.step (.takeIdle (i := 0) rfl rfl)).step (.probed (i := 0) true rfl)
  exact ⟨_, _, hrun, rfl, rfl, (upstream_transport_bound .http1 1 hrun).1⟩

end AuthMiniGateway
