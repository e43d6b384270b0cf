import Mathlib.Data.List.Basic
import AssetOracle.Rpc.Channel

/-!
# The numbers of calls

Each channel numbers its own calls, one after the other (`ids_of_stamp`), and calls on other
channels do not matter to it (`stamp_of_filter`). Both are by induction on the calls, with the
counters at any values.
-/

namespace AssetOracle.Rpc

variable {ε : Type} {ask : ε → Ask} {request : ε → Request} {counters other : Counters}
  {calls : List ε}

theorem Counters.next_apply (counters : Counters) (channel : Channel) (n : Nat) :
    counters.next channel n = if n = channel.number then counters n + 1 else counters n := rfl

/-- Only the counters of the channels of the calls matter. -/
theorem stamp_congr {asks : List Ask}
    (h : ∀ a ∈ asks, counters a.channel.number = other a.channel.number) :
    stamp counters asks = stamp other asks := by
  induction asks generalizing counters other with
  | nil => rfl
  | cons a asks ih =>
    obtain ⟨ha, hasks⟩ := List.forall_mem_cons.1 h
    have hrest : ∀ b ∈ asks, counters.next a.channel b.channel.number =
        other.next a.channel b.channel.number := by
      intro b hb
      rw [Counters.next_apply, Counters.next_apply, hasks b hb]
    rw [stamp, stamp, ih hrest, Counters.id, Counters.id, ha]

/-- A call gets the number after those of the calls before it on its channel. -/
theorem stamp_append_singleton (asks : List Ask) (a : Ask) :
    stamp counters (asks ++ [a]) = stamp counters asks ++
      [a.request (a.channel.protocol.firstId + (counters a.channel.number +
        asks.countP (·.channel.number = a.channel.number)))] := by
  induction asks generalizing counters with
  | nil => rfl
  | cons b asks ih =>
    have hcount : counters.next b.channel a.channel.number +
        asks.countP (·.channel.number = a.channel.number) =
          counters a.channel.number +
            (b :: asks).countP (·.channel.number = a.channel.number) := by
      rw [Counters.next_apply, List.countP_cons]
      by_cases hnumber : a.channel.number = b.channel.number
      · simp only [hnumber, if_true, decide_true]
        omega
      · simp only [hnumber, if_false, Ne.symm hnumber, decide_false]
        rfl
    rw [List.cons_append, stamp, ih, hcount]
    rfl

/-- What some calls are sent as does not depend on calls on other channels. -/
theorem stamp_of_filter (h : calls.map request = stamp counters (calls.map ask)) {keep : ε → Bool}
    (happart : ∀ x ∈ calls, ∀ y ∈ calls, keep x = true → keep y = false →
      (ask x).channel.number ≠ (ask y).channel.number) :
    (calls.filter keep).map request = stamp counters ((calls.filter keep).map ask) := by
  induction calls generalizing counters with
  | nil => rfl
  | cons x calls ih =>
    rw [List.map_cons, List.map_cons, stamp] at h
    obtain ⟨hx, hcalls⟩ := List.cons.inj h
    have hrest := ih hcalls fun y hy z hz =>
      happart y (List.mem_cons_of_mem x hy) z (List.mem_cons_of_mem x hz)
    cases hkeep : keep x with
    | true =>
      rw [List.filter_cons_of_pos hkeep, List.map_cons, List.map_cons, stamp, hx, hrest]
    | false =>
      rw [List.filter_cons_of_neg (by simp [hkeep]), hrest]
      refine stamp_congr fun a ha => ?_
      obtain ⟨y, hy, rfl⟩ := List.mem_map.1 ha
      obtain ⟨hmem, hy⟩ := List.mem_filter.1 hy
      rw [Counters.next_apply, if_neg]
      exact happart y (List.mem_cons_of_mem x hmem) x List.mem_cons_self hy hkeep

/-- The calls on a channel are numbered one after the other from where its counter is. -/
theorem ids_of_stamp (h : calls.map request = stamp counters (calls.map ask)) {number first : Nat}
    (hfirst : ∀ x ∈ calls, (ask x).channel.number = number →
      (ask x).channel.protocol.firstId = first) :
    (calls.filter fun x => (ask x).channel.number = number).map (fun x => (request x).id) =
      List.range' (first + counters number)
        (calls.filter fun x => (ask x).channel.number = number).length := by
  induction calls generalizing counters with
  | nil => rfl
  | cons x calls ih =>
    rw [List.map_cons, List.map_cons, stamp] at h
    obtain ⟨hx, hcalls⟩ := List.cons.inj h
    obtain ⟨hfirstx, hfirst⟩ := List.forall_mem_cons.1 hfirst
    have hrest := ih hcalls hfirst
    rw [Counters.next_apply] at hrest
    by_cases hnumber : (ask x).channel.number = number
    · have hid : (request x).id = first + counters number := by
        rw [hx, ← hfirstx hnumber, ← hnumber]
        rfl
      rw [if_pos hnumber.symm, ← Nat.add_assoc] at hrest
      rw [List.filter_cons_of_pos (by simp [hnumber]), List.map_cons, List.length_cons,
        List.range'_succ, hrest, hid]
    · rw [if_neg (Ne.symm hnumber)] at hrest
      rw [List.filter_cons_of_neg (by simp [hnumber]), hrest]

end AssetOracle.Rpc
