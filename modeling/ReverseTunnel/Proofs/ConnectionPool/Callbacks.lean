import Mathlib.Data.List.Nodup
import Mathlib.Data.List.Perm.Basic
import ReverseTunnel.Proofs.ConnectionPool.Drivers

/-!
# One callback for every channel

Many calls may work on one pool at a time, and each of them can be interrupted
wherever it does not hold the lock. Adding a channel asks whether the key is free,
shakes hands, draws a number, and then enters the channel unless another call came
first. A channel is deleted, closed with all others, or ends on its own, and each of
these only tells its driver, which later removes the channel, if the key still leads
to it, and later still calls back. A `World` is a pool with the calls and drivers at
work on it, and a list of `Turn`s is one interleaving of them. Closing all channels
holds the lock only while it removes them, so it is several turns (`World.run_drain`).

The numbers of channels carry the proof. No two calls draw the same one, and at any
time the channels that were opened are those that are driven and those that were
called back for, each of them once (`World.Orderly.ledger`). This is kept by every
turn (`World.orderly_take`), and over all interleavings every channel is called back
for exactly once (`called_back_once`).
-/

namespace ReverseTunnel.ConnectionPool

/-! ## The steps of adding a channel, and of a driver -/

/-- The number of the next channel, which is used up. -/
def draw (p : ConnectionPool) : Nat × ConnectionPool :=
  (p.nextChannel, { p with nextChannel := p.nextChannel + 1 })

/-- Enters a channel under a number that was drawn, and starts its driver. -/
def enter (p : ConnectionPool) (key : String) (channel : Nat) :
    Except ConnectionFault ConnectionPool :=
  match p.checkFree key with
  | .error e => .error e
  | .ok () =>
    .ok { p with
      channels := p.channels.insert key channel
      drivers := p.drivers ++ [⟨channel, key, false⟩] }

/-- A driver removes its channel, if the key still leads to it. -/
def leave (p : ConnectionPool) (d : ChannelDriver) : ConnectionPool :=
  { p with
    channels := if p.channels.get? d.key = some d.channel then p.channels.erase d.key
      else p.channels }

/-- A driver calls back with its key, and is gone. -/
def report (p : ConnectionPool) (d : ChannelDriver) : ConnectionPool :=
  { p with drivers := p.drivers.erase d, reported := d.key :: p.reported }

/-- Registering a channel is drawing a number and entering the channel under it. -/
theorem register_eq_enter (p : ConnectionPool) (key : String) :
    p.register key = p.draw.2.enter key p.draw.1 := rfl

/-- A driver ends by leaving and then calling back. -/
theorem finish_eq_report (p : ConnectionPool) (d : ChannelDriver) :
    p.finish d = (p.leave d).report d := rfl

theorem enter_eq_ok {p p' : ConnectionPool} {key : String} {channel : Nat}
    (h : p.enter key channel = .ok p') :
    p.channels.get? key = none ∧
      p' = { p with
        channels := p.channels.insert key channel
        drivers := p.drivers ++ [⟨channel, key, false⟩] } := by
  cases hcontains : p.contains key with
  | true => simp [enter, checkFree, hcontains] at h
  | false =>
    refine ⟨NameMap.contains_eq_false_iff.1 hcontains, ?_⟩
    simpa [enter, checkFree, hcontains] using h.symm

/-- A driver that leaves removes no channel but its own. -/
theorem get?_leave (p : ConnectionPool) (d : ChannelDriver) (key : String) (channel : Nat) :
    (p.leave d).channels.get? key = some channel ↔
      p.channels.get? key = some channel ∧ ¬(key = d.key ∧ channel = d.channel) := by
  rw [leave]
  by_cases hown : p.channels.get? d.key = some d.channel
  · rw [if_pos hown, NameMap.get?_erase_eq_some_iff]
    constructor
    · rintro ⟨hne, hget⟩
      exact ⟨hget, fun h => hne h.1⟩
    · rintro ⟨hget, hother⟩
      refine ⟨?_, hget⟩
      rintro rfl
      exact hother ⟨rfl, Option.some.inj (hget.symm.trans hown)⟩
  · rw [if_neg hown]
    constructor
    · intro hget
      refine ⟨hget, ?_⟩
      rintro ⟨rfl, rfl⟩
      exact hown hget
    · exact fun h => h.1

/-! ## Interleaved calls -/

/-- Where a call that adds a channel stands. -/
inductive AddPhase where
  | called
  /-- The key was free; the transport handshake is under way. -/
  | connecting
  /-- This number was drawn for the channel. -/
  | numbered (channel : Nat)
  /-- The call succeeded; its channel has this number. -/
  | opened (channel : Nat)
  | refused (fault : ConnectionFault)
  deriving DecidableEq

/-- A call that adds a channel. -/
structure AddCall where
  key : String
  phase : AddPhase
  deriving DecidableEq

namespace AddCall

/-- One step of a call; its handshake, if that is next, succeeds or not. -/
def step (p : ConnectionPool) (succeeds : Bool) (a : AddCall) : ConnectionPool × AddCall :=
  match a.phase with
  | .called =>
    match p.checkFree a.key with
    | .ok () => (p, { a with phase := .connecting })
    | .error fault => (p, { a with phase := .refused fault })
  | .connecting =>
    if succeeds then (p.draw.2, { a with phase := .numbered p.draw.1 })
    else (p, { a with phase := .refused .transport })
  | .numbered channel =>
    match p.enter a.key channel with
    | .ok p => (p, { a with phase := .opened channel })
    | .error fault => (p, { a with phase := .refused fault })
  | .opened _ | .refused _ => (p, a)

/-- A call that nobody interrupts registers its channel. -/
theorem step_of_register {p p' : ConnectionPool} {key : String} (ok : p.register key = .ok p') :
    step p true ⟨key, .called⟩ = (p, ⟨key, .connecting⟩) ∧
      step p true ⟨key, .connecting⟩ = (p.draw.2, ⟨key, .numbered p.draw.1⟩) ∧
      step p.draw.2 true ⟨key, .numbered p.draw.1⟩ = (p', ⟨key, .opened p.draw.1⟩) := by
  have hfree : p.checkFree key = .ok () := by
    simp [checkFree, contains, NameMap.contains_eq_false_iff.2 (register_eq_ok ok).1]
  rw [register_eq_enter] at ok
  refine ⟨?_, rfl, ?_⟩
  · simp only [step, hfree]
  · simp only [step, ok]

/-- The number that a call drew, unless it was refused since. -/
def number? (a : AddCall) : Option Nat :=
  match a.phase with
  | .numbered channel | .opened channel => some channel
  | .called | .connecting | .refused _ => none

/-- The key and the number of the channel that a call opened. -/
def opened? (a : AddCall) : Option (String × Nat) :=
  match a.phase with
  | .opened channel => some (a.key, channel)
  | .called | .connecting | .numbered _ | .refused _ => none

theorem opened?_eq_some_iff {a : AddCall} {key : String} {channel : Nat} :
    a.opened? = some (key, channel) ↔ a = ⟨key, .opened channel⟩ := by
  obtain ⟨key', phase⟩ := a
  cases phase with
  | opened channel' => simp [opened?]
  | _ => simp [opened?]

/-- A step of a call changes channels and drivers only if it opens a channel. -/
theorem step_eq (p : ConnectionPool) (succeeds : Bool) (a : AddCall) :
    (∃ channel, (a.step p succeeds).2 = ⟨a.key, .opened channel⟩) ∨
      (a.step p succeeds).1.channels = p.channels ∧ (a.step p succeeds).1.drivers = p.drivers := by
  obtain ⟨key, phase⟩ := a
  cases phase with
  | called =>
    simp only [step]
    split
    · exact .inr ⟨rfl, rfl⟩
    · exact .inr ⟨rfl, rfl⟩
  | connecting =>
    cases succeeds with
    | true => exact .inr ⟨rfl, rfl⟩
    | false => exact .inr ⟨rfl, rfl⟩
  | numbered channel =>
    simp only [step]
    split
    · exact .inl ⟨channel, rfl⟩
    · exact .inr ⟨rfl, rfl⟩
  | opened channel => exact .inr ⟨rfl, rfl⟩
  | refused fault => exact .inr ⟨rfl, rfl⟩

end AddCall

/-- The key and the number of the channel of a driver. -/
def ticket (d : ChannelDriver) : String × Nat := (d.key, d.channel)

/-- A pool with the calls and the drivers at work on it. -/
structure World where
  pool : ConnectionPool
  /-- The calls that add a channel, in the order in which they were made. -/
  adds : List AddCall
  /-- The drivers that have removed their channels and are about to call back. -/
  left : List ChannelDriver
  /-- The drivers that have called back, last first. -/
  called : List ChannelDriver

/-- A turn of one of those that work on a pool. -/
inductive Turn where
  /-- A call to add a channel is made. -/
  | add (key : String)
  /-- The call at this place takes a step. -/
  | advance (place : Nat) (succeeds : Bool)
  | delete (key : String)
  /-- All channels are removed at once. Their drivers are told one by one after that. -/
  | drain
  /-- The channel of this number ends on its own, or its driver is told to end. -/
  | lose (channel : Nat)
  /-- The driver of this channel, once that ended or it was told to end, leaves. -/
  | leave (channel : Nat)
  /-- The driver of this channel, once it left, calls back. -/
  | report (channel : Nat)

namespace World

/-- The empty pool. -/
def fresh : World := ⟨.empty, [], [], []⟩

/-- The world after a turn. A turn that nobody can take changes nothing. -/
def take (w : World) : Turn → World
  | .add key => { w with adds := w.adds ++ [⟨key, .called⟩] }
  | .advance place succeeds =>
    match w.adds[place]? with
    | none => w
    | some a =>
      { w with
        pool := (a.step w.pool succeeds).1
        adds := w.adds.set place (a.step w.pool succeeds).2 }
  | .delete key => { w with pool := (w.pool.delete key).2 }
  | .drain => { w with pool := { w.pool with channels := .empty } }
  | .lose channel => { w with pool := w.pool.cancel channel }
  | .leave channel =>
    match w.pool.drivers.find? fun d =>
      d.channel == channel && d.cancelled && !w.left.contains d with
    | none => w
    | some d => { w with pool := w.pool.leave d, left := w.left ++ [d] }
  | .report channel =>
    match w.left.find? fun d => d.channel == channel with
    | none => w
    | some d =>
      { w with pool := w.pool.report d, left := w.left.erase d, called := d :: w.called }

/-- The world after some turns. -/
def run (w : World) (turns : List Turn) : World := turns.foldl take w

/-- Closing all channels is removing them and telling the driver of each one. -/
theorem run_drain (w : World) :
    w.run (.drain :: w.pool.channels.values.map .lose) = { w with pool := w.pool.closeAll } := by
  -- On the channels whose drivers are still to be told.
  have hlose : ∀ (entries : List (String × Nat)) (w : World),
      w.run ((entries.map Prod.snd).map .lose) =
        { w with pool := entries.foldl (fun p e => p.cancel e.2) w.pool } := by
    intro entries
    induction entries with
    | nil => exact fun w => rfl
    | cons e entries ih => exact fun w => ih (w.take (.lose e.2))
  exact hlose w.pool.channels.entries (w.take .drain)

/-- How often the driver of a channel has called back. -/
def callbacks (w : World) (channel : Nat) : Nat := w.called.countP fun d => d.channel == channel

/-- The numbers that were drawn for channels. -/
def numbers (w : World) : List Nat := w.adds.filterMap AddCall.number?

/-- The channels that were opened. -/
def opened (w : World) : List (String × Nat) := w.adds.filterMap AddCall.opened?

/-- What holds at any time: the channels that were opened are, each of them once, driven or
called back for. A key leads to a channel that is driven, and not to one whose driver left. -/
structure Orderly (w : World) : Prop where
  nodup_numbers : w.numbers.Nodup
  lt_nextChannel : ∀ channel ∈ w.numbers, channel < w.pool.nextChannel
  ledger : ((w.called ++ w.pool.drivers).map ticket).Perm w.opened
  routed : ∀ key channel, w.pool.channels.get? key = some channel →
    ∃ d ∈ w.pool.drivers, ticket d = (key, channel)
  nodup_left : w.left.Nodup
  leaving : ∀ d ∈ w.left, d ∈ w.pool.drivers ∧ d.cancelled = true ∧
    w.pool.channels.get? d.key ≠ some d.channel
  reported : w.pool.reported = w.called.map ChannelDriver.key

variable {w : World} {a a' : AddCall} {d d' : ChannelDriver} {place channel : Nat} {key : String}

/-! ## Numbers tell channels apart -/

/-- A list, one of its elements named, through a partial function. -/
theorem filterMap_perm_of_getElem? {α β : Type} (f : α → Option β) {l : List α} {i : Nat} {x : α}
    (h : l[i]? = some x) : (l.filterMap f).Perm ((f x).toList ++ (l.eraseIdx i).filterMap f) := by
  obtain ⟨hi, rfl⟩ := List.getElem?_eq_some_iff.1 h
  have hperm := ((List.getElem_cons_eraseIdx_perm hi).filterMap f).symm
  cases hx : f l[i] with
  | none => simpa [List.filterMap_cons, hx] using hperm
  | some y => simpa [List.filterMap_cons, hx] using hperm

theorem filterMap_set_perm {α β : Type} (f : α → Option β) {l : List α} {i : Nat} {x : α} (y : α)
    (h : l[i]? = some x) :
    ((l.set i y).filterMap f).Perm ((f y).toList ++ (l.eraseIdx i).filterMap f) := by
  have hi := (List.getElem?_eq_some_iff.1 h).1
  have hset : (l.set i y)[i]? = some y := List.getElem?_set_self hi
  have hperm := filterMap_perm_of_getElem? f hset
  rwa [List.eraseIdx_set_eq] at hperm

/-- The number of a channel that was opened was drawn. -/
theorem opened_sublist_numbers (adds : List AddCall) :
    ((adds.filterMap AddCall.opened?).map Prod.snd).Sublist (adds.filterMap AddCall.number?) := by
  induction adds with
  | nil => exact .slnil
  | cons a adds ih =>
    obtain ⟨key, phase⟩ := a
    cases phase with
    | opened channel => exact ih.cons_cons channel
    | numbered channel => exact ih.cons channel
    | _ => exact ih

theorem Orderly.nodup_channels (h : w.Orderly) :
    ((w.called ++ w.pool.drivers).map ChannelDriver.channel).Nodup := by
  have hopened : (w.opened.map Prod.snd).Nodup :=
    (opened_sublist_numbers w.adds).nodup h.nodup_numbers
  have hperm := h.ledger.map Prod.snd
  rw [List.map_map] at hperm
  exact hperm.nodup_iff.2 hopened

/-- A channel has one driver. -/
theorem Orderly.eq_of_channel (h : w.Orderly) (hd : d ∈ w.called ++ w.pool.drivers)
    (hd' : d' ∈ w.called ++ w.pool.drivers) (heq : d.channel = d'.channel) : d = d' :=
  List.inj_on_of_nodup_map h.nodup_channels hd hd' heq

/-- The channel of a driver that left, or that called back, is not in the map. -/
theorem Orderly.get?_ne_of_mem (h : w.Orderly) (hd : d ∈ w.left ++ w.called) (key : String) :
    w.pool.channels.get? key ≠ some d.channel := by
  intro hget
  obtain ⟨d', hd', hticket⟩ := h.routed key d.channel hget
  obtain ⟨rfl, hchannel⟩ := Prod.mk.inj hticket
  rcases List.mem_append.1 hd with hleft | hcalled
  · obtain ⟨hdriven, -, hgone⟩ := h.leaving d hleft
    obtain rfl : d' = d :=
      h.eq_of_channel (List.mem_append_right _ hd') (List.mem_append_right _ hdriven) hchannel
    exact hgone hget
  · -- Its number would be among those called back for and among those driven.
    have hdisjoint := List.disjoint_of_nodup_append (List.map_append ▸ h.nodup_channels)
    exact hdisjoint (List.mem_map_of_mem hcalled) (hchannel ▸ List.mem_map_of_mem hd')

/-! ## What a turn keeps -/

theorem orderly_fresh : fresh.Orderly where
  nodup_numbers := List.nodup_nil
  lt_nextChannel := nofun
  ledger := .nil
  routed := nofun
  nodup_left := List.nodup_nil
  leaving := nofun
  reported := rfl

theorem map_ticket_stopDrivers (test : Nat → Bool) (ds : List ChannelDriver) :
    (stopDrivers test ds).map ticket = ds.map ticket := by
  rw [stopDrivers, List.map_map]
  refine List.map_congr_left fun d _ => ?_
  simp only [Function.comp]
  split <;> rfl

/-- Some drivers are told to end, and some channels removed. -/
theorem Orderly.stop (h : w.Orderly) (test : Nat → Bool) (channels : NameMap Nat)
    (hsub : ∀ key channel, channels.get? key = some channel →
      w.pool.channels.get? key = some channel) :
    { w with
      pool := { w.pool with channels, drivers := stopDrivers test w.pool.drivers } }.Orderly where
  nodup_numbers := h.nodup_numbers
  lt_nextChannel := h.lt_nextChannel
  ledger := by
    rw [List.map_append, map_ticket_stopDrivers, ← List.map_append]
    exact h.ledger
  routed := by
    intro key channel hget
    obtain ⟨d, hd, hticket⟩ := h.routed key channel (hsub key channel hget)
    have hmem : (key, channel) ∈ (stopDrivers test w.pool.drivers).map ticket := by
      rw [map_ticket_stopDrivers, ← hticket]
      exact List.mem_map_of_mem hd
    exact List.mem_map.1 hmem
  nodup_left := h.nodup_left
  leaving := by
    intro d hleft
    obtain ⟨hd, htold, hgone⟩ := h.leaving d hleft
    refine ⟨List.mem_map.2 ⟨d, hd, ?_⟩, htold, fun hget => hgone (hsub _ _ hget)⟩
    -- A driver that was told before stays as it is.
    obtain ⟨channel, key, cancelled⟩ := d
    obtain rfl : cancelled = true := htold
    split <;> rfl
  reported := h.reported

/-- A call goes on, or is refused, without a channel. -/
theorem Orderly.settle (h : w.Orderly) (ha : w.adds[place]? = some a) (hopened : a.opened? = none)
    (hnumber' : a'.number? = none) (hopened' : a'.opened? = none) :
    { w with adds := w.adds.set place a' }.Orderly := by
  have hnumbers := filterMap_perm_of_getElem? AddCall.number? ha
  have hnumbers' := filterMap_set_perm AddCall.number? a' ha
  rw [hnumber'] at hnumbers'
  refine ⟨?_, ?_, ?_, h.routed, h.nodup_left, h.leaving, h.reported⟩
  · exact hnumbers'.nodup_iff.2 (hnumbers.nodup_iff.1 h.nodup_numbers).of_append_right
  · intro channel hmem
    apply h.lt_nextChannel
    exact hnumbers.mem_iff.2 (List.mem_append_right _ (hnumbers'.mem_iff.1 hmem))
  · have hbefore := filterMap_perm_of_getElem? AddCall.opened? ha
    have hafter := filterMap_set_perm AddCall.opened? a' ha
    rw [hopened] at hbefore
    rw [hopened'] at hafter
    exact h.ledger.trans (hbefore.trans hafter.symm)

/-- A call draws a number that no call has drawn before. -/
theorem Orderly.draw (h : w.Orderly) (ha : w.adds[place]? = some ⟨key, .connecting⟩) :
    { w with
      pool := w.pool.draw.2
      adds := w.adds.set place ⟨key, .numbered w.pool.draw.1⟩ }.Orderly := by
  have hnumbers := filterMap_perm_of_getElem? AddCall.number? ha
  have hnumbers' :=
    filterMap_set_perm AddCall.number? (⟨key, .numbered w.pool.draw.1⟩ : AddCall) ha
  have hcons := hnumbers'.trans (hnumbers.symm.cons w.pool.nextChannel)
  refine ⟨?_, ?_, ?_, h.routed, h.nodup_left, h.leaving, h.reported⟩
  · apply hcons.nodup_iff.2
    apply List.nodup_cons.2
    exact ⟨fun hmem => Nat.lt_irrefl _ (h.lt_nextChannel _ hmem), h.nodup_numbers⟩
  · intro channel hmem
    rcases List.mem_cons.1 (hcons.mem_iff.1 hmem) with rfl | hmem
    · exact Nat.lt_succ_self _
    · exact Nat.lt_succ_of_lt (h.lt_nextChannel channel hmem)
  · have hbefore := filterMap_perm_of_getElem? AddCall.opened? ha
    have hafter :=
      filterMap_set_perm AddCall.opened? (⟨key, .numbered w.pool.draw.1⟩ : AddCall) ha
    exact h.ledger.trans (hbefore.trans hafter.symm)

/-- A number that was drawn and not used yet is that of no driver. -/
theorem Orderly.channel_ne_of_numbered (h : w.Orderly)
    (ha : w.adds[place]? = some ⟨key, .numbered channel⟩)
    (hd : d ∈ w.called ++ w.pool.drivers) : d.channel ≠ channel := by
  rintro rfl
  have hnumbers := filterMap_perm_of_getElem? AddCall.number? ha
  have hopened := filterMap_perm_of_getElem? AddCall.opened? ha
  -- The driver's channel was opened by another call, which drew the same number.
  have hticket : ticket d ∈ (w.adds.eraseIdx place).filterMap AddCall.opened? :=
    hopened.mem_iff.1 (h.ledger.mem_iff.1 (List.mem_map_of_mem hd))
  have hagain : d.channel ∈ (w.adds.eraseIdx place).filterMap AddCall.number? :=
    (opened_sublist_numbers _).subset (List.mem_map_of_mem hticket)
  exact (List.nodup_cons.1 (hnumbers.nodup_iff.1 h.nodup_numbers)).1 hagain

/-- A call enters its channel. -/
theorem Orderly.enter {p' : ConnectionPool} (h : w.Orderly)
    (ha : w.adds[place]? = some ⟨key, .numbered channel⟩)
    (ok : w.pool.enter key channel = .ok p') :
    { w with pool := p', adds := w.adds.set place ⟨key, .opened channel⟩ }.Orderly := by
  obtain ⟨hfree, rfl⟩ := enter_eq_ok ok
  have hnumbers := (filterMap_set_perm AddCall.number? (⟨key, .opened channel⟩ : AddCall) ha).trans
    (filterMap_perm_of_getElem? AddCall.number? ha).symm
  refine ⟨?_, ?_, ?_, ?_, h.nodup_left, ?_, h.reported⟩
  · exact hnumbers.nodup_iff.2 h.nodup_numbers
  · exact fun channel hmem => h.lt_nextChannel channel (hnumbers.mem_iff.1 hmem)
  · have hbefore := filterMap_perm_of_getElem? AddCall.opened? ha
    have hafter := filterMap_set_perm AddCall.opened? (⟨key, .opened channel⟩ : AddCall) ha
    -- The new driver is entered with the channel that the call has opened.
    simp only [← List.append_assoc, List.map_append, List.map_cons, List.map_nil]
    rw [← List.map_append]
    refine List.perm_append_singleton _ _ |>.trans ?_
    exact ((h.ledger.trans hbefore).cons (key, channel)).trans hafter.symm
  · intro key' channel' hget
    rw [NameMap.get?_insert] at hget
    split at hget
    · next hkey =>
      refine ⟨⟨channel, key, false⟩, by simp, ?_⟩
      rw [ticket, hkey, Option.some.inj hget]
    · obtain ⟨d, hd, hticket⟩ := h.routed key' channel' hget
      exact ⟨d, List.mem_append_left _ hd, hticket⟩
  · intro d hleft
    obtain ⟨hd, htold, hgone⟩ := h.leaving d hleft
    refine ⟨List.mem_append_left _ hd, htold, ?_⟩
    rw [NameMap.get?_insert]
    split
    · intro hget
      exact h.channel_ne_of_numbered ha (List.mem_append_right _ hd) (Option.some.inj hget).symm
    · exact hgone

/-- A call takes a step. -/
theorem Orderly.advance (h : w.Orderly) (ha : w.adds[place]? = some a) (succeeds : Bool) :
    { w with
      pool := (a.step w.pool succeeds).1
      adds := w.adds.set place (a.step w.pool succeeds).2 }.Orderly := by
  obtain ⟨key, phase⟩ := a
  -- A call that is over stays what it is.
  have hover : { w with adds := w.adds.set place ⟨key, phase⟩ }.Orderly := by
    obtain ⟨hplace, heq⟩ := List.getElem?_eq_some_iff.1 ha
    rw [← heq, List.set_getElem_self]
    exact h
  cases phase with
  | called =>
    simp only [AddCall.step]
    split
    · exact h.settle ha rfl rfl rfl
    · exact h.settle ha rfl rfl rfl
  | connecting =>
    cases succeeds with
    | true => exact h.draw ha
    | false => exact h.settle ha rfl rfl rfl
  | numbered channel =>
    simp only [AddCall.step]
    split
    · next p' ok => exact h.enter ha ok
    · exact h.settle ha rfl rfl rfl
  | opened channel => exact hover
  | refused fault => exact hover

/-- A driver that ended removes its channel. -/
theorem Orderly.leave (h : w.Orderly) (hd : d ∈ w.pool.drivers) (htold : d.cancelled = true)
    (hnew : d ∉ w.left) : { w with pool := w.pool.leave d, left := w.left ++ [d] }.Orderly where
  nodup_numbers := h.nodup_numbers
  lt_nextChannel := h.lt_nextChannel
  ledger := h.ledger
  routed := fun key channel hget => h.routed key channel ((get?_leave _ d key channel).1 hget).1
  nodup_left := by
    rw [List.nodup_append_comm]
    exact List.nodup_cons.2 ⟨hnew, h.nodup_left⟩
  leaving := by
    intro d' hd'
    rcases List.mem_append.1 hd' with hleft | hself
    · obtain ⟨hdriven, htold', hgone⟩ := h.leaving d' hleft
      exact ⟨hdriven, htold', fun hget => hgone ((get?_leave _ d _ _).1 hget).1⟩
    · obtain rfl := List.mem_singleton.1 hself
      exact ⟨hd, htold, fun hget => ((get?_leave _ d' _ _).1 hget).2 ⟨rfl, rfl⟩⟩
  reported := h.reported

/-- A driver that left calls back. -/
theorem Orderly.report (h : w.Orderly) (hd : d ∈ w.left) :
    { w with
      pool := w.pool.report d, left := w.left.erase d, called := d :: w.called }.Orderly where
  nodup_numbers := h.nodup_numbers
  lt_nextChannel := h.lt_nextChannel
  ledger := by
    -- The driver moves from those that work to those that have called back.
    have hmove : (d :: w.called ++ w.pool.drivers.erase d).Perm (w.called ++ w.pool.drivers) :=
      List.perm_middle.symm.trans
        ((List.perm_cons_erase (h.leaving d hd).1).symm.append_left w.called)
    exact (hmove.map ticket).trans h.ledger
  routed := by
    intro key channel hget
    obtain ⟨d', hd', hticket⟩ := h.routed key channel hget
    have hne : d' ≠ d := by
      rintro rfl
      obtain ⟨rfl, rfl⟩ := Prod.mk.inj hticket
      exact (h.leaving d' hd).2.2 hget
    exact ⟨d', (List.mem_erase_of_ne hne).2 hd', hticket⟩
  nodup_left := h.nodup_left.erase d
  leaving := by
    intro d' hd'
    obtain ⟨hne, hleft⟩ := (h.nodup_left.mem_erase_iff).1 hd'
    obtain ⟨hdriven, htold, hgone⟩ := h.leaving d' hleft
    exact ⟨(List.mem_erase_of_ne hne).2 hdriven, htold, hgone⟩
  reported := congrArg (d.key :: ·) h.reported

/-- Every turn keeps the order. -/
theorem orderly_take (h : w.Orderly) (turn : Turn) : (w.take turn).Orderly := by
  cases turn with
  | add key =>
    have hnumbers : (w.take (.add key)).numbers = w.numbers := by
      simp [numbers, take, AddCall.number?]
    have hopened : (w.take (.add key)).opened = w.opened := by
      simp [opened, take, AddCall.opened?]
    refine ⟨?_, ?_, ?_, h.routed, h.nodup_left, h.leaving, h.reported⟩
    · rw [hnumbers]
      exact h.nodup_numbers
    · rw [hnumbers]
      exact h.lt_nextChannel
    · rw [hopened]
      exact h.ledger
  | advance place succeeds =>
    rw [take]
    split
    · exact h
    · next a ha => exact h.advance ha succeeds
  | delete key =>
    rw [take, delete]
    split
    · exact h
    · rw [cancel_eq]
      exact h.stop _ _ fun _ _ hget => (NameMap.get?_erase_eq_some_iff.1 hget).2
  | drain =>
    have hnone : ∀ key channel, (NameMap.empty : NameMap Nat).get? key = some channel →
        w.pool.channels.get? key = some channel := by
      intro key channel hget
      cases hget
    have hdrained := h.stop (fun _ => false) .empty hnone
    simpa [stopDrivers, take] using hdrained
  | lose channel =>
    rw [take, cancel_eq]
    exact h.stop _ _ fun _ _ hget => hget
  | leave channel =>
    rw [take]
    split
    · exact h
    · next d hfind =>
      have htest := List.find?_some hfind
      simp only [Bool.and_eq_true, Bool.not_eq_true', List.contains_eq_mem,
        decide_eq_false_iff_not] at htest
      exact h.leave (List.mem_of_find?_eq_some hfind) htest.1.2 htest.2
  | report channel =>
    rw [take]
    split
    · exact h
    · next d hfind => exact h.report (List.mem_of_find?_eq_some hfind)

theorem orderly_run (h : w.Orderly) (turns : List Turn) : (w.run turns).Orderly := by
  induction turns generalizing w with
  | nil => exact h
  | cons turn turns ih => exact ih (orderly_take h turn)

/-! ## Calls that are over -/

/-- A channel that was opened stays opened. -/
theorem opened_take (ha : w.adds[place]? = some ⟨key, .opened channel⟩) (turn : Turn) :
    (w.take turn).adds[place]? = some ⟨key, .opened channel⟩ := by
  have hlt := (List.getElem?_eq_some_iff.1 ha).1
  cases turn with
  | add key' => exact (List.getElem?_append_left hlt).trans ha
  | advance place' succeeds =>
    rw [take]
    split
    · exact ha
    · next a' ha' =>
      by_cases hplace : place' = place
      · subst hplace
        obtain rfl := Option.some.inj (ha.symm.trans ha')
        exact List.getElem?_set_self hlt
      · exact (List.getElem?_set_ne hplace).trans ha
  | leave channel' =>
    rw [take]
    split <;> exact ha
  | report channel' =>
    rw [take]
    split <;> exact ha
  | _ => exact ha

theorem opened_run (ha : w.adds[place]? = some ⟨key, .opened channel⟩) (turns : List Turn) :
    (w.run turns).adds[place]? = some ⟨key, .opened channel⟩ := by
  induction turns generalizing w with
  | nil => exact ha
  | cons turn turns ih => exact ih (opened_take ha turn)

/-- No step of a call that is refused in the end changes channels or drivers. -/
theorem unchanged_of_refused {fault : ConnectionFault} {succeeds : Bool} {later : List Turn}
    (h : ((w.take (.advance place succeeds)).run later).adds[place]? = some ⟨key, .refused fault⟩) :
    (w.take (.advance place succeeds)).pool.channels = w.pool.channels ∧
      (w.take (.advance place succeeds)).pool.drivers = w.pool.drivers := by
  cases ha : w.adds[place]? with
  | none =>
    rw [take, ha]
    exact ⟨rfl, rfl⟩
  | some a =>
    have htake : w.take (.advance place succeeds) =
        { w with
          pool := (a.step w.pool succeeds).1
          adds := w.adds.set place (a.step w.pool succeeds).2 } := by
      rw [take, ha]
    rw [htake] at h ⊢
    rcases AddCall.step_eq w.pool succeeds a with ⟨channel, hopened⟩ | hsame
    · -- A call that opened its channel is not refused later.
      rw [hopened] at h
      have hnow : (w.adds.set place ⟨a.key, .opened channel⟩)[place]? =
          some ⟨a.key, .opened channel⟩ :=
        List.getElem?_set_self (List.getElem?_eq_some_iff.1 ha).1
      exact absurd (h.symm.trans (opened_run hnow later)) (by simp)
    · exact hsame

/-- No two calls opened one channel. -/
theorem Orderly.place_unique (h : w.Orderly) {place' : Nat} {key' : String}
    (ha : w.adds[place]? = some ⟨key, .opened channel⟩)
    (ha' : w.adds[place']? = some ⟨key', .opened channel⟩) : place' = place := by
  by_contra hne
  have hnumbers := filterMap_perm_of_getElem? AddCall.number? ha
  have hagain : channel ∈ (w.adds.eraseIdx place).filterMap AddCall.number? :=
    List.mem_filterMap.2 ⟨_, List.mem_eraseIdx_iff_getElem?.2 ⟨place', hne, ha'⟩, rfl⟩
  exact (List.nodup_cons.1 (hnumbers.nodup_iff.1 h.nodup_numbers)).1 hagain

/-! ## Callbacks -/

/-- A channel that was opened is driven or was called back for, and that once. -/
theorem Orderly.callbacks_add_drivers (h : w.Orderly)
    (ha : w.adds[place]? = some ⟨key, .opened channel⟩) :
    w.callbacks channel + w.pool.drivers.countP (fun d => d.channel == channel) = 1 := by
  have hmem : (key, channel) ∈ (w.called ++ w.pool.drivers).map ticket :=
    h.ledger.mem_iff.2 (List.mem_filterMap.2 ⟨_, List.mem_of_getElem? ha, rfl⟩)
  obtain ⟨d, hd, hticket⟩ := List.mem_map.1 hmem
  obtain ⟨-, rfl⟩ := Prod.mk.inj hticket
  -- Its number appears once among those of the drivers that called back and those at work.
  have hcount := List.count_eq_one_of_mem h.nodup_channels (List.mem_map_of_mem hd)
  rw [List.count, List.countP_map, List.countP_append] at hcount
  exact hcount

/-- A channel that was opened and has no driver any more was called back for. -/
theorem Orderly.callbacks_eq_one (h : w.Orderly)
    (ha : w.adds[place]? = some ⟨key, .opened channel⟩)
    (hnone : ∀ d ∈ w.pool.drivers, d.channel ≠ channel) : w.callbacks channel = 1 := by
  have hone := h.callbacks_add_drivers ha
  have hzero : w.pool.drivers.countP (fun d => d.channel == channel) = 0 :=
    List.countP_eq_zero.2 fun d hd => by simpa using hnone d hd
  omega

/-- A driver that called back is that of a channel that a call opened. -/
theorem Orderly.opened_of_called (h : w.Orderly) (hd : d ∈ w.called) :
    ∃ place : Nat, w.adds[place]? = some ⟨d.key, .opened d.channel⟩ := by
  have hmem : ticket d ∈ w.opened :=
    h.ledger.mem_iff.1 (List.mem_map_of_mem (List.mem_append_left _ hd))
  obtain ⟨a, ha, hopened⟩ := List.mem_filterMap.1 hmem
  obtain rfl := AddCall.opened?_eq_some_iff.1 hopened
  exact List.mem_iff_getElem?.1 ha

/-- A driver that calls back has left before. -/
theorem mem_left_of_called {turn : Turn} (h : (w.take turn).called = d :: w.called) :
    d ∈ w.left := by
  have hlonger : ∀ ds : List ChannelDriver, ds ≠ d :: ds := fun ds heq => by
    simpa using congrArg List.length heq
  cases turn with
  | advance place succeeds =>
    rw [take] at h
    split at h <;> exact absurd h (hlonger _)
  | leave channel =>
    rw [take] at h
    split at h <;> exact absurd h (hlonger _)
  | report channel =>
    rw [take] at h
    split at h
    · exact absurd h (hlonger _)
    · next d' hfind =>
      obtain ⟨rfl, -⟩ := List.cons.inj h
      exact List.mem_of_find?_eq_some hfind
  | _ => exact absurd h (hlonger _)

/-- A driver that leaves keeps the channels of others. -/
theorem get?_take_leave {channel' : Nat} (hne : channel' ≠ channel)
    (hget : w.pool.channels.get? key = some channel') :
    (w.take (.leave channel)).pool.channels.get? key = some channel' := by
  rw [take]
  split
  · exact hget
  · next d hfind =>
    have htest := List.find?_some hfind
    simp only [Bool.and_eq_true, beq_iff_eq] at htest
    refine (get?_leave _ d key channel').2 ⟨hget, ?_⟩
    rintro ⟨-, rfl⟩
    exact hne htest.1.1

/-- A driver that ended leaves when its turn comes, if it has not left. -/
theorem Orderly.mem_left_take_leave (h : w.Orderly)
    (htold : ∀ d ∈ w.pool.drivers, d.channel = channel → d.cancelled = true)
    (hd : d ∈ (w.take (.leave channel)).pool.drivers) (heq : d.channel = channel) :
    d ∈ (w.take (.leave channel)).left := by
  rw [take] at hd ⊢
  split at hd
  · next hfind =>
    have hnone := List.find?_eq_none.1 hfind d hd
    simpa [heq, htold d hd heq] using hnone
  · next d' hfind =>
    have htest := List.find?_some hfind
    simp only [Bool.and_eq_true, beq_iff_eq] at htest
    have hd' := List.mem_of_find?_eq_some hfind
    obtain rfl : d = d' :=
      h.eq_of_channel (List.mem_append_right _ hd) (List.mem_append_right _ hd')
        (heq.trans htest.1.1.symm)
    exact List.mem_append_right _ List.mem_cons_self

/-- A driver that left calls back when its turn comes, and is gone. -/
theorem Orderly.channel_ne_take_report (h : w.Orderly)
    (hleft : ∀ d ∈ w.pool.drivers, d.channel = channel → d ∈ w.left)
    (hd : d ∈ (w.take (.report channel)).pool.drivers) : d.channel ≠ channel := by
  intro heq
  rw [take] at hd
  split at hd
  · next hfind => simpa [heq] using List.find?_eq_none.1 hfind d (hleft d hd heq)
  · next d' hfind =>
    have hd' := (h.leaving d' (List.mem_of_find?_eq_some hfind)).1
    have heq' : d'.channel = channel := by simpa using List.find?_some hfind
    have hnodup : w.pool.drivers.Nodup :=
      (List.nodup_append.1 (List.Nodup.of_map _ h.nodup_channels)).2.1
    obtain ⟨hne, hdriven⟩ := hnodup.mem_erase_iff.1 hd
    exact hne (h.eq_of_channel (List.mem_append_right _ hdriven) (List.mem_append_right _ hd')
      (heq.trans heq'.symm))

/-- Once a channel has ended, and its driver has left and called back, it has no driver. -/
theorem Orderly.channel_ne_run (h : w.Orderly) (channel : Nat) :
    ∀ d ∈ (w.run [.lose channel, .leave channel, .report channel]).pool.drivers,
      d.channel ≠ channel := by
  have hlost := orderly_take h (.lose channel)
  have htold : ∀ d ∈ (w.take (.lose channel)).pool.drivers, d.channel = channel →
      d.cancelled = true := by
    intro d hd heq
    obtain ⟨d', -, rfl⟩ := List.mem_map.1 hd
    by_cases hd' : d'.channel = channel
    · rw [if_pos hd']
    · rw [if_neg hd'] at heq
      exact absurd heq hd'
  have hleft := orderly_take hlost (.leave channel)
  intro d hd
  apply hleft.channel_ne_take_report _ hd
  exact fun d' hd' heq => hlost.mem_left_take_leave htold hd' heq

end World

/-- Over every interleaving of calls that add, delete and close channels, of channels that end
and of drivers that leave and call back: a channel that a call opened is its own, it is called
back for at most once, once it has no driver exactly once, and its driver can always end. Every
callback is for a channel that a call opened, with its key, and when it is made that channel
has left the map for good. A call that is refused changes no channel and no driver. A key has
at most one channel, and a driver that leaves keeps the channels of others. -/
theorem called_back_once (turns : List Turn) :
    let w := World.fresh.run turns
    (∀ (place : Nat) key channel, w.adds[place]? = some ⟨key, .opened channel⟩ →
      (∀ (place' : Nat) key', w.adds[place']? = some ⟨key', .opened channel⟩ → place' = place) ∧
      w.callbacks channel ≤ 1 ∧
      ((∀ d ∈ w.pool.drivers, d.channel ≠ channel) → w.callbacks channel = 1) ∧
      (w.run [.lose channel, .leave channel, .report channel]).callbacks channel = 1) ∧
    (∀ d ∈ w.called, (∃ place : Nat, w.adds[place]? = some ⟨d.key, .opened d.channel⟩) ∧
      ∀ key, w.pool.channels.get? key ≠ some d.channel) ∧
    (∀ turn d, (w.take turn).called = d :: w.called →
      ∀ key, w.pool.channels.get? key ≠ some d.channel) ∧
    (∀ (place : Nat) succeeds later key fault,
      ((w.take (.advance place succeeds)).run later).adds[place]? = some ⟨key, .refused fault⟩ →
      (w.take (.advance place succeeds)).pool.channels = w.pool.channels ∧
        (w.take (.advance place succeeds)).pool.drivers = w.pool.drivers) ∧
    w.pool.channels.names.Nodup ∧
    (∀ channel key channel', channel' ≠ channel → w.pool.channels.get? key = some channel' →
      (w.take (.leave channel)).pool.channels.get? key = some channel') ∧
    w.pool.reported = w.called.map ChannelDriver.key := by
  intro w
  have h : w.Orderly := World.orderly_run World.orderly_fresh turns
  refine ⟨?_, ?_, ?_, ?_, NameMap.nodup_names _, ?_, h.reported⟩
  · intro place key channel ha
    refine ⟨fun place' key' ha' => h.place_unique ha ha', ?_, h.callbacks_eq_one ha, ?_⟩
    · have hone := h.callbacks_add_drivers ha
      omega
    · apply (World.orderly_run h _).callbacks_eq_one (World.opened_run ha _)
      exact h.channel_ne_run channel
  · intro d hd
    exact ⟨h.opened_of_called hd, h.get?_ne_of_mem (List.mem_append_right _ hd)⟩
  · intro turn d hd
    exact h.get?_ne_of_mem (List.mem_append_left _ (World.mem_left_of_called hd))
  · intro place succeeds later key fault hrefused
    exact World.unchanged_of_refused hrefused
  · intro channel key channel' hne hget
    exact World.get?_take_leave hne hget

/-- Two calls for one key find it free, and the second is refused. The channel of the first is
deleted and replaced by a third call before its driver has left. -/
def replacement : List Turn :=
  [.add "k", .add "k", .advance 0 true, .advance 1 true, .advance 0 true, .advance 1 true,
    .advance 0 true, .advance 1 true, .delete "k", .add "k", .advance 2 true, .advance 2 true,
    .advance 2 true, .leave 1, .report 1]

/-- Control: the driver of the channel that was deleted calls back once and keeps the channel
that replaced it. -/
theorem called_back_once_replacement :
    let w := World.fresh.run replacement
    w.adds = [⟨"k", .opened 1⟩, ⟨"k", .refused (.duplicateKey "k")⟩, ⟨"k", .opened 3⟩] ∧
      (∀ d ∈ w.pool.drivers, d.channel ≠ 1) ∧ w.callbacks 1 = 1 ∧
      w.pool.channels.get? "k" = some 3 ∧ w.callbacks 3 ≤ 1 := by
  intro w
  have hadds : w.adds =
      [⟨"k", .opened 1⟩, ⟨"k", .refused (.duplicateKey "k")⟩, ⟨"k", .opened 3⟩] := by
    decide +kernel
  have hgone : ∀ d ∈ w.pool.drivers, d.channel ≠ 1 := by decide +kernel
  obtain ⟨hopened, -⟩ := called_back_once replacement
  have hfirst := hopened 0 "k" 1 (by rw [hadds]; rfl)
  have hthird := hopened 2 "k" 3 (by rw [hadds]; rfl)
  exact ⟨hadds, hgone, hfirst.2.2.1 hgone, by decide +kernel, hthird.2.1⟩

end ReverseTunnel.ConnectionPool
