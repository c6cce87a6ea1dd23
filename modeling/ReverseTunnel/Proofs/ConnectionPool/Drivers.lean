import ReverseTunnel.ConnectionPool
import ReverseTunnel.Proofs.NameMap

/-!
# Drivers that are told to end

Cancelling a channel, deleting it, removing all channels and losing a peer have
this in common: some drivers are told to end, some channels leave the map, and a
driver that was not told still has its channel. `ConnectionPool.Stops` says so;
what a server knows of its connections is kept by every such change.
-/

namespace ReverseTunnel.ConnectionPool

variable {p p' : ConnectionPool} {key : String} {channel : Nat} {d : ChannelDriver}

/-- Some drivers were told to end, and some of their channels were removed. -/
structure Stops (p p' : ConnectionPool) : Prop where
  keys : p'.drivers.map ChannelDriver.key = p.drivers.map ChannelDriver.key
  nextChannel : p'.nextChannel = p.nextChannel
  told : ∀ d ∈ p.drivers, ∃ d' ∈ p'.drivers, d'.key = d.key ∧ d'.channel = d.channel ∧
    (d.cancelled = true → d'.cancelled = true)
  running : ∀ d ∈ p'.drivers, d.cancelled = false → d ∈ p.drivers
  routed : ∀ key channel, p'.channels.get? key = some channel → p.channels.get? key = some channel
  live : ∀ d ∈ p'.drivers, d.cancelled = false → p.channels.get? d.key = some d.channel →
    p'.channels.get? d.key = some d.channel

/-- The drivers of some channels told to end. -/
def stopDrivers (test : Nat → Bool) (ds : List ChannelDriver) : List ChannelDriver :=
  ds.map fun d => if test d.channel then { d with cancelled := true } else d

theorem stops_stopDrivers {channels : NameMap Nat} (test : Nat → Bool)
    (hrouted : ∀ key channel, channels.get? key = some channel →
      p.channels.get? key = some channel)
    (hlive : ∀ key channel, test channel = false → p.channels.get? key = some channel →
      channels.get? key = some channel) :
    p.Stops { p with channels, drivers := stopDrivers test p.drivers } := by
  -- A driver that runs was not told, and is as it was.
  have hold : ∀ d ∈ stopDrivers test p.drivers, d.cancelled = false →
      d ∈ p.drivers ∧ test d.channel = false := by
    intro d hd hrunning
    obtain ⟨d₀, hd₀, rfl⟩ := List.mem_map.1 hd
    cases htest : test d₀.channel with
    | true => simp [htest] at hrunning
    | false => simpa [htest] using hd₀
  refine ⟨?_, rfl, ?_, fun d hd hrunning => (hold d hd hrunning).1, hrouted, ?_⟩
  · rw [stopDrivers, List.map_map]
    refine List.map_congr_left fun d _ => ?_
    simp only [Function.comp]
    split <;> rfl
  · intro d hd
    refine ⟨_, List.mem_map_of_mem hd, ?_⟩
    split
    · exact ⟨rfl, rfl, fun _ => rfl⟩
    · exact ⟨rfl, rfl, id⟩
  · intro d hd hrunning hchannel
    exact hlive d.key d.channel (hold d hd hrunning).2 hchannel

theorem cancel_eq (p : ConnectionPool) (channel : Nat) :
    p.cancel channel = { p with drivers := stopDrivers (fun c => c == channel) p.drivers } := by
  simp [cancel, stopDrivers]

theorem stops_cancel (p : ConnectionPool) (channel : Nat) : p.Stops (p.cancel channel) := by
  rw [cancel_eq]
  exact stops_stopDrivers _ (fun _ _ h => h) fun _ _ _ h => h

theorem Stops.refl (p : ConnectionPool) : p.Stops p :=
  ⟨rfl, rfl, fun d hd => ⟨d, hd, rfl, rfl, id⟩, fun _ hd _ => hd, fun _ _ h => h,
    fun _ _ _ h => h⟩

/-- A driver that was told to end stays as it is. -/
theorem Stops.mem_of_cancelled (h : p.Stops p') (hd : d ∈ p.drivers) (htold : d.cancelled = true) :
    d ∈ p'.drivers := by
  obtain ⟨⟨channel, key, cancelled⟩, hd', rfl, rfl, hcancelled⟩ := h.told d hd
  obtain ⟨channel, key, cancelled'⟩ := d
  obtain rfl : cancelled' = true := htold
  obtain rfl : cancelled = true := hcancelled rfl
  exact hd'

theorem stops_peerClosed (p : ConnectionPool) (key : String) : p.Stops (p.peerClosed key) := by
  rw [peerClosed]
  split
  · exact .refl p
  · exact stops_cancel p _

/-- Deleting a channel removes it and tells its driver to end. -/
theorem stops_delete (p : ConnectionPool) (key : String) : p.Stops (p.delete key).2 := by
  rw [delete]
  split
  · exact .refl p
  · next channel hchannel =>
    rw [cancel_eq]
    refine stops_stopDrivers _ (fun key' c hc => ?_) fun key' c hne hc => ?_
    · rw [NameMap.get?_erase] at hc
      split at hc
      · cases hc
      · exact hc
    · -- A channel with another number is not the one deleted.
      have hkey : key' ≠ key := by
        rintro rfl
        rw [hchannel] at hc
        simp only [Option.some.injEq] at hc
        simp [hc] at hne
      rw [NameMap.get?_erase_of_ne hkey, hc]

theorem get?_delete_self (p : ConnectionPool) (key : String) :
    (p.delete key).2.channels.get? key = none := by
  rw [delete]
  split
  · assumption
  · rw [cancel]
    exact NameMap.get?_erase_self

theorem closeAll_eq (p : ConnectionPool) :
    p.closeAll =
      { p with
        channels := .empty
        drivers := stopDrivers (fun c => p.channels.values.contains c) p.drivers } := by
  -- Telling the drivers of one channel after the other is telling those of all.
  have hfold : ∀ (entries : List (String × Nat)) (q : ConnectionPool),
      entries.foldl (fun q e => q.cancel e.2) q =
        { q with drivers := stopDrivers (fun c => (entries.map Prod.snd).contains c) q.drivers } := by
    intro entries
    induction entries with
    | nil => intro q; simp [stopDrivers]
    | cons e entries ih =>
      intro q
      rw [List.foldl_cons, ih, cancel_eq]
      simp only [stopDrivers, List.map_map, List.map_cons]
      congr 1
      refine List.map_congr_left fun d _ => ?_
      simp only [Function.comp, beq_iff_eq]
      by_cases he : d.channel = e.2
      · rw [if_pos he]
        simp [he]
      · have hcontains : (e.2 :: entries.map Prod.snd).contains d.channel =
            (entries.map Prod.snd).contains d.channel := by
          rw [List.contains_cons, beq_false_of_ne he, Bool.false_or]
        rw [if_neg he, hcontains]
  exact hfold p.channels.entries { p with channels := .empty }

/-- Removing all channels tells all their drivers to end. -/
theorem stops_closeAll (p : ConnectionPool) : p.Stops p.closeAll := by
  rw [closeAll_eq]
  refine stops_stopDrivers _ (fun _ _ h => nomatch h) fun key channel hnot hchannel => ?_
  have hmem : channel ∈ p.channels.values :=
    List.mem_map.2 ⟨(key, channel), NameMap.get?_eq_some_iff.1 hchannel, rfl⟩
  simp [hmem] at hnot

/-- A key gets a channel with a number of its own and a driver. -/
theorem register_eq_ok (h : p.register key = .ok p') :
    p.channels.get? key = none ∧
      p' = { p with
        channels := p.channels.insert key p.nextChannel
        drivers := p.drivers ++ [⟨p.nextChannel, key, false⟩]
        nextChannel := p.nextChannel + 1 } := by
  simp only [register, checkFree] at h
  split at h
  · cases h
  · next hfree =>
    cases h
    refine ⟨?_, rfl⟩
    split at hfree
    · cases hfree
    · next hnot => exact NameMap.contains_eq_false_iff.1 (by simpa [contains] using hnot)

/-- Deleting a channel that was just opened leaves its driver, told to end. -/
theorem delete_of_register (h : p.register key = .ok p') :
    (p'.delete key).2 = { p.cancel p.nextChannel with
      drivers := (p.cancel p.nextChannel).drivers ++ [⟨p.nextChannel, key, true⟩]
      nextChannel := p.nextChannel + 1 } := by
  obtain ⟨hfree, rfl⟩ := register_eq_ok h
  simp [delete, cancel, NameMap.erase_insert, NameMap.erase_eq_self hfree]

end ReverseTunnel.ConnectionPool
