import Chainwalk.Proofs.Residents.Reached

/-!
# Clocks

A server has a clock, and so has each of its worlds. They count in 64 bits without a sign, advance
together, and stop at the greatest count. The methods that tell them give the bits as a number with
a sign, so a clock that comes to `2 ^ 63` is told as one that has run back.

* `Clock.times`: the times of a clock that is advanced again and again;
* `Clock.forward_shown_iff`: when it is told as one that does not run back;
* `Realm.HasClock`: the clocks of a server and the methods that tell them, with
  `Realm.HasClock.advance`, how they advance, and `Realm.HasClock.run`, how they are told;
* `Realm.Reached.clocks`: what is told of them from call to call of `advance(long)`.
-/

namespace Chainwalk

/-! ## A clock -/

namespace Clock

variable {c : UInt64} {n : Int64} {ticks : List Int64}

/-- The time some ticks later. A clock stops at its greatest time. -/
def later (c ticks : UInt64) : UInt64 :=
  UInt64.ofNat (min (UInt64.size - 1) (c.toNat + ticks.toNat))

theorem toNat_later (c ticks : UInt64) :
    (later c ticks).toNat = min (2 ^ 64 - 1) (c.toNat + ticks.toNat) := by
  rw [later, UInt64.toNat_ofNat', UInt64.size]
  omega

/-- The times of a clock: the one it starts with, and the one after each of the advances. -/
def times (c : UInt64) (ticks : List Int64) : List UInt64 :=
  ticks.scanl (fun c n => later c n.toUInt64) c

/-- What is told of a clock at these times. -/
def shown (c : UInt64) (ticks : List Int64) : List Int64 := (times c ticks).map UInt64.toInt64

@[simp] theorem shown_nil (c : UInt64) : shown c [] = [c.toInt64] := rfl

@[simp] theorem shown_cons (c : UInt64) (n : Int64) (ticks : List Int64) :
    shown c (n :: ticks) = c.toInt64 :: shown (later c n.toUInt64) ticks := by
  rw [shown, times, List.scanl_cons, List.map_cons, shown, times]

theorem head?_shown (c : UInt64) (ticks : List Int64) :
    (shown c ticks).head? = some c.toInt64 := by
  rw [shown, List.head?_map, times, List.head?_scanl, Option.map_some]

/-- The clock does not run back: no time is negative, and none is less than the one before it. -/
structure Forward (shown : List Int64) : Prop where
  nonneg : ∀ n ∈ shown, 0 ≤ n
  ordered : shown.IsChain (· ≤ ·)

theorem forward_cons_iff {l : List Int64} :
    Forward (n :: l) ↔ 0 ≤ n ∧ (∀ m ∈ l.head?, n ≤ m) ∧ Forward l := by
  constructor
  · rintro ⟨hnonneg, hordered⟩
    rw [List.isChain_cons] at hordered
    exact ⟨hnonneg n List.mem_cons_self, hordered.1,
      fun m hm => hnonneg m (List.mem_cons_of_mem n hm), hordered.2⟩
  · rintro ⟨hn, hhead, hl⟩
    exact ⟨List.forall_mem_cons.2 ⟨hn, hl.nonneg⟩, List.isChain_cons.2 ⟨hhead, hl.ordered⟩⟩

/-- The upper half of the times is told as negative numbers. -/
theorem toInt_toInt64 (c : UInt64) :
    c.toInt64.toInt = if c.toNat < 2 ^ 63 then (c.toNat : Int) else c.toNat - 2 ^ 64 := by
  rw [← Int64.toInt_toBitVec, UInt64.toBitVec_toInt64, BitVec.toInt_eq_toNat_cond,
    UInt64.toNat_toBitVec]
  split <;> split <;> omega

theorem nonneg_toInt64_iff : 0 ≤ c.toInt64 ↔ c.toNat < 2 ^ 63 := by
  have hc := c.toNat_lt
  rw [Int64.le_iff_toInt_le, toInt_toInt64, Int64.toInt_zero]
  split <;> omega

theorem toInt64_le_of_lt {d : UInt64} (hcd : c.toNat ≤ d.toNat) (hd : d.toNat < 2 ^ 63) :
    c.toInt64 ≤ d.toInt64 := by
  rw [Int64.le_iff_toInt_le, toInt_toInt64, toInt_toInt64, if_pos (by omega), if_pos hd]
  omega

theorem toNat_toUInt64 (hn : 0 ≤ n) : (n.toUInt64.toNat : Int) = n.toInt := by
  have hpos : 0 ≤ n.toInt := Int64.le_iff_toInt_le.1 hn
  rw [Int64.toNat_toUInt64_of_le hn]
  exact Int.toNat_of_nonneg hpos

/-- A clock is told as one that does not run back exactly if it stays in the lower half of the
    times. -/
theorem forward_shown_iff (hticks : ∀ n ∈ ticks, 0 ≤ n) :
    Forward (shown c ticks) ↔ c.toNat + (ticks.map Int64.toInt).sum < 2 ^ 63 := by
  -- For every start, since each advance is the start of the rest. A clock that has stopped is in
  -- the upper half, so it does not matter that it counts no further.
  induction ticks generalizing c with
  | nil =>
    have hnil : Forward [] := ⟨by simp, .nil⟩
    rw [shown_nil, forward_cons_iff, nonneg_toInt64_iff]
    simp [hnil]
  | cons n ticks ih =>
    obtain ⟨hn, hticks⟩ := List.forall_mem_cons.1 hticks
    have hlater := toNat_later c n.toUInt64
    have htoNat := toNat_toUInt64 hn
    have hsum : 0 ≤ (ticks.map Int64.toInt).sum :=
      List.sum_nonneg (List.forall_mem_map.2 fun m hm => Int64.le_iff_toInt_le.1 (hticks m hm))
    rw [shown_cons, forward_cons_iff, ih hticks, nonneg_toInt64_iff, head?_shown, List.map_cons,
      List.sum_cons]
    constructor
    · rintro ⟨-, -, hlt⟩
      omega
    · intro hlt
      refine ⟨by omega, ?_, by omega⟩
      rintro _ ⟨⟩
      exact toInt64_le_of_lt (by omega) (by omega)

end Clock

/-! ## The clocks of a server -/

/-- The method that tells the clock of a server. -/
def Method.getTick : Method := serverMethods.get ⟨3, by decide⟩

/-- The method that lets time pass. -/
def Method.advance : Method := serverMethods.get ⟨9, by decide⟩

/-- The method that tells the clock of a world. -/
def Method.getTime : Method := worldMethods.get ⟨2, by decide⟩

namespace Realm

variable {realm : Realm} {s : Ref .server} {m : Method} {recv : Object} {c : UInt64}

/-- The clocks of a server, its own and those of its worlds: the method and the receiver that tell
    them, and their time. -/
inductive HasClock (realm : Realm) (s : Ref .server) : Method → Object → UInt64 → Prop
  | server {v : Server} (hv : realm.servers.get? s = some v) :
      HasClock realm s .getTick (.server s) v.tick
  | world {r : Ref .world} {w : World} (hr : r ∈ realm.worldsOf s)
      (hw : realm.worlds.get? r = some w) : HasClock realm s .getTime (.world r) w.time

theorem get?_servers_advance (s : Ref .server) (n : UInt64) (realm : Realm) :
    (advance s n realm).2.servers.get? s = (realm.servers.get? s).map (·.advanced n) := by
  change (realm.servers.modify s _).get? s = _
  rw [Table.get?_modify, if_pos rfl]

theorem get?_worlds_advance (hnodup : (realm.worldsOf s).Nodup) (n : UInt64) (r : Ref .world) :
    (advance s n realm).2.worlds.get? r =
      if r ∈ realm.worldsOf s then (realm.worlds.get? r).map (·.advanced n)
      else realm.worlds.get? r :=
  Table.get?_foldl_modify hnodup _ _ r

/-- All clocks advance by the same ticks. -/
theorem HasClock.advance (h : realm.HasClock s m recv c) (hnodup : (realm.worldsOf s).Nodup)
    (n : UInt64) : (advance s n realm).2.HasClock s m recv (Clock.later c n) := by
  cases h with
  | @server v hv =>
    have hv' : (Realm.advance s n realm).2.servers.get? s = some (v.advanced n) := by
      rw [get?_servers_advance, hv, Option.map_some]
    exact .server hv'
  | @world r w hr hw =>
    have hr' : r ∈ (Realm.advance s n realm).2.worldsOf s := by
      rwa [(sameWorlds_advance s n realm).worldsOf]
    have hw' : (Realm.advance s n realm).2.worlds.get? r = some (w.advanced n) := by
      rw [get?_worlds_advance hnodup, if_pos hr, hw, Option.map_some]
    exact .world hr' hw'

end Realm

/-! ## Telling and advancing them -/

theorem run_serverReceiver (h : Hierarchy) {t : Store} {s : Ref .server} {v : Server}
    (hv : t.realm.servers.get? s = some v) : serverReceiver h (.server s) t = (.ok (s, v), t) := by
  have hrecv : receiver (Ref .server) h (.server s) .server = .ok s := rfl
  simp only [serverReceiver, bind_apply, Act.ofExcept, hrecv, Act.realm, Realm.run_getServer, hv]
  rfl

namespace Method

variable {h : Hierarchy} {t : Store} {s : Ref .server} {recv : Object} {m : Method}

/-- A number that a method without arguments gives. -/
def Reads (m : Method) (h : Hierarchy) (recv : Object) (n : Int64) (t : Store) : Prop :=
  (m.invoke h recv [] t).1 = .ok (some (.value t.supply (.scalar .long n)))

/-- A clock is told by its bits, with a sign. -/
theorem reads_of_hasClock {c : UInt64} (hc : t.realm.HasClock s m recv c) (h : Hierarchy) :
    m.Reads h recv c.toInt64 t := by
  cases hc with
  | @server v hv =>
    have hobstacle : getTick.obstacle? h (.server s) [] = none :=
      obstacle?_eq_none_iff.2 ⟨h.isA_self _, .nil⟩
    have hbody : getTick.body h (.server s) [] t = (do
      Act.scalar .long (← serverReceiver h (.server s)).2.tick.toInt64 : Act Value) t := rfl
    rw [Reads, invoke_eq, hobstacle, hbody, bind_apply, run_serverReceiver h hv]
    rfl
  | @world r w hr hw =>
    have hobstacle : getTime.obstacle? h (.world r) [] = none :=
      obstacle?_eq_none_iff.2 ⟨h.isA_self _, .nil⟩
    have hbody : getTime.body h (.world r) [] t = (do
      Act.scalar .long (← worldReceiver h (.world r)).2.time.toInt64 : Act Value) t := rfl
    rw [Reads, invoke_eq, hobstacle, hbody, bind_apply, run_worldReceiver h hw]
    rfl

theorem body_advance (h : Hierarchy) (recv : Object) (args : List Value) :
    advance.body h recv args = (do
      let ticks ← Act.ofExcept (argument Int64 h args 0 .long)
      if ticks < 0 then throw (.refused .negativeTicks)
      let (r, _) ← serverReceiver h recv
      Act.realm (Realm.advance r ticks.toUInt64)
      return none) := rfl

/-- A call of the method that is not forbidden, for the one argument that it has. -/
theorem run_advance {v : Server} (hv : t.realm.servers.get? s = some v) (tag : Nat) (n : Int64) :
    advance.invoke h (.server s) [some (.value tag (.scalar .long n))] t =
      if n < 0 then (.error (.raised (advance.signature h) (.refused .negativeTicks)), t)
      else (.ok none, { t with realm := (Realm.advance s n.toUInt64 t.realm).2 }) := by
  have hobstacle : advance.obstacle? h (.server s) [some (.value tag (.scalar .long n))] = none :=
    obstacle?_eq_none_iff.2 ⟨h.isA_self _, .cons (h.fits_some.2 (h.isA_self _)) .nil⟩
  have hticks : argument Int64 h [some (.value tag (.scalar .long n))] 0 .long = .ok n :=
    argument_eq_ok_iff.2 ⟨_, rfl, rfl⟩
  rw [invoke_eq, hobstacle, body_advance]
  by_cases hneg : n < 0
  · simp only [bind_apply, Act.ofExcept, hticks, if_pos hneg]
    rfl
  · simp only [bind_apply, Act.ofExcept, hticks, if_neg hneg, run_serverReceiver h hv]
    rfl

/-- Time passes exactly for a number of ticks that is not negative. -/
theorem advance_eq_ok_iff (hthere : (t.realm.servers.get? s).isSome) (h : Hierarchy)
    {args : List Value} {x : Value} :
    (advance.invoke h (.server s) args t).1 = .ok x ↔
      x = none ∧ ∃ tag n, args = [some (.value tag (.scalar .long n))] ∧ 0 ≤ n := by
  obtain ⟨v, hv⟩ := Option.isSome_iff_exists.1 hthere
  constructor
  · intro hok
    rw [invoke_eq] at hok
    rcases ho : advance.obstacle? h (.server s) args with _ | fault
    · obtain ⟨a, rfl⟩ := List.length_eq_one_iff.1 (obstacle?_eq_none_iff.1 ho).2.length_eq.symm
      rcases hn : argument Int64 h [a] 0 .long with fault | n
      · rw [ho, body_advance] at hok
        simp [bind_apply, Act.ofExcept, hn] at hok
      · obtain ⟨o, ha, hn⟩ := argument_eq_ok_iff.1 hn
        obtain ⟨tag, rfl⟩ := Object.shows?_long_iff.1 hn
        obtain rfl := Option.some.inj ha
        rw [← invoke_eq, run_advance hv] at hok
        split at hok
        · cases hok
        · cases hok
          exact ⟨rfl, tag, n, rfl, Int64.not_lt.1 ‹_›⟩
    · rw [ho] at hok
      cases hok
  · rintro ⟨rfl, tag, n, rfl, hn⟩
    rw [run_advance hv, if_neg (Int64.not_lt.2 hn)]

end Method

/-! ## From call to call -/

/-- Calls of the method that lets time pass, with their ticks and the states before and after them.
    They all succeed, and nothing else happens to the realm in between. -/
inductive Advancing (h : Hierarchy) (s : Ref .server) : Store → List Int64 → List Store → Prop
  | rest (t : Store) : Advancing h s t [] [t]
  | advance {t u : Store} {tag : Nat} {n : Int64} {ticks : List Int64} {states : List Store}
      (hcall : (Method.advance.invoke h (.server s)
        [some (.value tag (.scalar .long n))] t).1 = .ok none)
      (hu : u.realm = (Method.advance.invoke h (.server s)
        [some (.value tag (.scalar .long n))] t).2.realm)
      (hrest : Advancing h s u ticks states) :
      Advancing h s t (n :: ticks) (t :: states)

variable {h : Hierarchy} {s : Ref .server} {t : Store} {ticks : List Int64} {states : List Store}

/-- A call that succeeds advances the server. -/
theorem Method.realm_advance (hthere : (t.realm.servers.get? s).isSome) {tag : Nat} {n : Int64}
    (hcall : (Method.advance.invoke h (.server s)
      [some (.value tag (.scalar .long n))] t).1 = .ok none) :
    0 ≤ n ∧ (Method.advance.invoke h (.server s) [some (.value tag (.scalar .long n))] t).2.realm =
      (Realm.advance s n.toUInt64 t.realm).2 := by
  obtain ⟨v, hv⟩ := Option.isSome_iff_exists.1 hthere
  obtain ⟨-, _, _, hargs, hn⟩ := (Method.advance_eq_ok_iff hthere h).1 hcall
  cases hargs
  rw [Method.run_advance hv, if_neg (Int64.not_lt.2 hn)]
  exact ⟨hn, rfl⟩

/-- What is told of the clocks of a server from call to call. -/
theorem Advancing.shown (ha : Advancing h s t ticks states) (ht : t.realm.WorldsApart s) :
    (∀ n ∈ ticks, 0 ≤ n) ∧ ∀ m recv c, t.realm.HasClock s m recv c →
      List.Forall₂ (m.Reads h recv) (Clock.shown c ticks) states := by
  induction ha with
  | rest t =>
    exact ⟨by simp, fun m recv c hc => .cons (Method.reads_of_hasClock hc h) .nil⟩
  | @advance t u tag n ticks states hcall hu hrest ih =>
    obtain ⟨hn, hrealm⟩ := Method.realm_advance ht.server hcall
    rw [hrealm] at hu
    obtain ⟨hticks, hshown⟩ := ih (hu ▸ ht.of_sameWorlds (Realm.sameWorlds_advance s _ _))
    refine ⟨List.forall_mem_cons.2 ⟨hn, hticks⟩, fun m recv c hc => ?_⟩
    -- After the first call a clock is one that has started so much later.
    rw [Clock.shown_cons]
    exact .cons (Method.reads_of_hasClock hc h)
      (hshown m recv _ (hu ▸ hc.advance ht.nodup_worldsOf n.toUInt64))

/-- Time can pass for all ticks that are not negative, one after the other. -/
theorem exists_advancing (ht : t.realm.WorldsApart s) (h : Hierarchy)
    (hticks : ∀ n ∈ ticks, 0 ≤ n) : ∃ states, Advancing h s t ticks states := by
  induction ticks generalizing t with
  | nil => exact ⟨_, .rest t⟩
  | cons n ticks ih =>
    obtain ⟨hn, hticks⟩ := List.forall_mem_cons.1 hticks
    have hcall := (Method.advance_eq_ok_iff ht.server h).2 ⟨rfl, 0, n, rfl, hn⟩
    obtain ⟨-, hrealm⟩ := Method.realm_advance ht.server hcall
    have ht' := ht.of_sameWorlds (Realm.sameWorlds_advance s n.toUInt64 t.realm)
    rw [← hrealm] at ht'
    obtain ⟨states, hstates⟩ := ih ht' hticks
    exact ⟨_, .advance hcall rfl hstates⟩

/-- Wherever a server comes to, time passes exactly for numbers of ticks that are not negative; and
    while it passes, the clocks of the server and of its worlds are told as ones that do not run
    back exactly as long as they stay below `2 ^ 63`. -/
theorem Realm.Reached.clocks (ht : Reached s t.realm) (h : Hierarchy) :
    (∀ args x, (Method.advance.invoke h (.server s) args t).1 = .ok x ↔
      x = none ∧ ∃ tag n, args = [some (.value tag (.scalar .long n))] ∧ 0 ≤ n) ∧
    (∀ ticks, (∃ states, Advancing h s t ticks states) ↔ ∀ n ∈ ticks, 0 ≤ n) ∧
    (∃ c, t.realm.HasClock s .getTick (.server s) c) ∧
    (∀ r ∈ t.realm.worldsOf s, ∃ c, t.realm.HasClock s .getTime (.world r) c) ∧
    ∀ m recv c, t.realm.HasClock s m recv c →
      ∀ ticks states, Advancing h s t ticks states →
        List.Forall₂ (m.Reads h recv) (Clock.shown c ticks) states ∧
        (Clock.Forward (Clock.shown c ticks) ↔
          c.toNat + (ticks.map Int64.toInt).sum < 2 ^ 63) := by
  have hapart := ht.worldsApart
  refine ⟨fun args x => Method.advance_eq_ok_iff hapart.server h,
    fun ticks => ⟨?nonneg, exists_advancing hapart h⟩, ?server, ?worlds, ?told⟩
  case nonneg =>
    rintro ⟨states, ha⟩
    exact (ha.shown hapart).1
  case server =>
    obtain ⟨v, hv⟩ := Option.isSome_iff_exists.1 hapart.server
    exact ⟨_, .server hv⟩
  case worlds =>
    intro r hr
    obtain ⟨w, hw⟩ := Option.isSome_iff_exists.1 (hapart.there r hr)
    exact ⟨_, .world hr hw⟩
  case told =>
    intro m recv c hc ticks states ha
    obtain ⟨hticks, hshown⟩ := ha.shown hapart
    exact ⟨hshown m recv c hc, Clock.forward_shown_iff hticks⟩

/-- A server with one world, whose clock is at the greatest time that is told as it is. -/
def Snapshot.lateWorld : Snapshot :=
  { Snapshot.default with
    worlds := [{ WorldSpec.default with name := "w", time := 9223372036854775807 }] }

/-- One tick later, the clock of the world is told as one that has run back. -/
theorem Realm.Reached.clocks_lateWorld :
    let t := { Store.empty with realm := (Snapshot.lateWorld.load Realm.empty).2 }
    Reached ⟨0⟩ t.realm ∧
      ∃ states, Advancing .builtins ⟨0⟩ t [1] states ∧
        List.Forall₂ (Method.getTime.Reads .builtins (.world ⟨0⟩))
          [9223372036854775807, -9223372036854775808] states ∧
        ¬Clock.Forward [9223372036854775807, -9223372036854775808] := by
  intro t
  have hload : Snapshot.lateWorld.load Realm.empty = (.ok ⟨0⟩, t.realm) := rfl
  have ht : Reached ⟨0⟩ t.realm := .loaded hload
  obtain ⟨hsucceeds, -, -, -, htold⟩ := ht.clocks .builtins
  have hcall := (hsucceeds [some (.value 0 (.scalar .long 1))] none).2 ⟨rfl, 0, 1, rfl, by decide⟩
  have hadvancing := Advancing.advance hcall rfl (.rest _)
  have hlisted : (⟨0⟩ : Ref .world) ∈ t.realm.worldsOf ⟨0⟩ := by decide +kernel
  have htime : (t.realm.worlds.get? ⟨0⟩).map World.time = some 9223372036854775807 := by
    decide +kernel
  obtain ⟨w, hw, htime⟩ := Option.map_eq_some_iff.1 htime
  have hclock : t.realm.HasClock ⟨0⟩ .getTime (.world ⟨0⟩) 9223372036854775807 :=
    htime ▸ .world hlisted hw
  have hshown : Clock.shown 9223372036854775807 [1] =
      [9223372036854775807, -9223372036854775808] := by decide
  obtain ⟨hreads, hforward⟩ := htold _ _ _ hclock _ _ hadvancing
  rw [hshown] at hreads hforward
  exact ⟨ht, _, hadvancing, hreads, fun h => absurd (hforward.1 h) (by decide)⟩

end Chainwalk
