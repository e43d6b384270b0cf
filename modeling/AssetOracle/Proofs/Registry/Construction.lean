import AssetOracle.Proofs.Registry.Bootstrap

/-!
# Constructors that are run in order

Constructors are run one after the other until one fails. What was made before the failure counts
for nothing: the error is all that is returned, and no later constructor is run
(`construct_of_failure`). Without a failure all of them are run, and the registry is the one after
their registrations (`construct_of_made`). The same holds of constructors that act on a world
(`Maker.construct_cases`), which is how it shows that each is run at most once, and in which order.
-/

namespace AssetOracle

open Registry (ofHistory latest)
open Text (lowercase)

variable {α σ : Type}

/-! ## Outcomes -/

section Outcomes

variable {r : Registry α} {made : List (String × α)} {rest : List (String × NodeResult α)}

/-- The outcomes of constructors that all make a client. -/
def succeeding (made : List (String × α)) : List (String × NodeResult α) :=
  made.map fun e => (e.1, .ok e.2)

/-- Constructors that make a client are run and registered before the rest, by induction on them. -/
theorem constructFrom_succeeding_append :
    constructFrom r (succeeding made ++ rest) =
      let later := constructFrom (made.foldl (fun r e => r.register e.1 e.2) r) rest
      ⟨made.map (·.1) ++ later.constructed, later.result⟩ := by
  induction made generalizing r with
  | nil => rfl
  | cons e made ih =>
    obtain ⟨id, client⟩ := e
    have hrest := @ih (r.register id client)
    rw [succeeding, List.map_cons, List.cons_append, constructFrom, ← succeeding, hrest]
    rfl

theorem construct_of_made (made : List (String × α)) :
    construct (succeeding made) = ⟨made.map (·.1), .ok (ofHistory made)⟩ := by
  have hrun : construct (succeeding made ++ []) = _ := constructFrom_succeeding_append
  rw [List.append_nil] at hrun
  rw [hrun]
  simp only [constructFrom, List.append_nil]
  rfl

/-- The first failure is the end, whatever stands behind it. -/
theorem construct_of_failure (made : List (String × α)) (id : String) (e : NodeError)
    (rest : List (String × NodeResult α)) :
    construct (succeeding made ++ (id, .error e) :: rest) = ⟨made.map (·.1) ++ [id], .error e⟩ :=
  constructFrom_succeeding_append

theorem exists_first_failure (entries : List (String × NodeResult α)) :
    (∃ made, entries = succeeding made) ∨
      ∃ made id e rest, entries = succeeding made ++ (id, .error e) :: rest := by
  induction entries with
  | nil => exact .inl ⟨[], rfl⟩
  | cons entry entries ih =>
    obtain ⟨id, outcome⟩ := entry
    cases outcome with
    | error e => exact .inr ⟨[], id, e, entries, rfl⟩
    | ok client =>
      rcases ih with ⟨made, rfl⟩ | ⟨made, id', e, rest, rfl⟩
      · exact .inl ⟨(id, client) :: made, rfl⟩
      · exact .inr ⟨(id, client) :: made, id', e, rest, rfl⟩

end Outcomes

/-! ## Constructors that act -/

/-- A constructor that acts on a world: what it makes or why it fails, and the world after it. -/
abbrev Maker (σ α : Type) := σ → NodeResult α × σ

namespace Maker

/-- Runs constructors in order on a world and registers what they make; the first failure ends
    it. -/
def constructFrom (r : Registry α) :
    List (String × Maker σ α) → σ → NodeResult (Registry α) × σ
  | [], world => (.ok r, world)
  | (id, make) :: rest, world =>
    match make world with
    | (.error e, after) => (.error e, after)
    | (.ok client, after) => constructFrom (r.register id client) rest after

/-- Builds a registry out of constructors that act. -/
def construct (entries : List (String × Maker σ α)) (world : σ) : NodeResult (Registry α) × σ :=
  constructFrom .empty entries world

/-- Whether constructors, each run once and in their order, take a world to another one and all make
    their client. -/
inductive Makes : List (String × Maker σ α) → σ → List (String × α) → σ → Prop where
  | nil (world : σ) : Makes [] world [] world
  | cons {id : String} {make : Maker σ α} {rest : List (String × Maker σ α)} {client : α}
    {made : List (String × α)} {world between after : σ} (hfirst : make world = (.ok client, between))
    (hrest : Makes rest between made after) :
    Makes ((id, make) :: rest) world ((id, client) :: made) after

/-- Either all constructors are run, or those up to the first failure: the world is changed by those
    and by no other. -/
theorem constructFrom_cases (r : Registry α) (entries : List (String × Maker σ α)) (world : σ) :
    (∃ made after, Makes entries world made after ∧
      constructFrom r entries world =
        (.ok (made.foldl (fun r e => r.register e.1 e.2) r), after)) ∨
    ∃ before id make rest made reached e after, entries = before ++ (id, make) :: rest ∧
      Makes before world made reached ∧ make reached = (.error e, after) ∧
      constructFrom r entries world = (.error e, after) := by
  induction entries generalizing r world with
  | nil => exact .inl ⟨[], world, .nil world, rfl⟩
  | cons entry entries ih =>
    obtain ⟨id, make⟩ := entry
    cases hmake : make world with
    | mk outcome between =>
      cases outcome with
      | error e =>
        refine .inr ⟨[], id, make, entries, [], world, e, between, rfl, .nil world, hmake, ?_⟩
        rw [constructFrom, hmake]
      | ok client =>
        have hstep : constructFrom r ((id, make) :: entries) world =
            constructFrom (r.register id client) entries between := by
          rw [constructFrom, hmake]
        rw [hstep]
        rcases ih (r.register id client) between with ⟨made, after, hmade, hrun⟩ |
            ⟨before, id', make', rest, made, reached, e, after, rfl, hmade, hfails, hrun⟩
        · exact .inl ⟨(id, client) :: made, after, .cons hmake hmade, hrun⟩
        · exact .inr ⟨(id, make) :: before, id', make', rest, (id, client) :: made, reached, e,
            after, rfl, .cons hmake hmade, hfails, hrun⟩

theorem construct_cases (entries : List (String × Maker σ α)) (world : σ) :
    (∃ made after, Makes entries world made after ∧
      construct entries world = (.ok (ofHistory made), after)) ∨
    ∃ before id make rest made reached e after, entries = before ++ (id, make) :: rest ∧
      Makes before world made reached ∧ make reached = (.error e, after) ∧
      construct entries world = (.error e, after) :=
  constructFrom_cases .empty entries world

/-- Constructors with given outcomes that write their ids down when they are run. -/
def logged (entries : List (String × NodeResult α)) : List (String × Maker (List String) α) :=
  entries.map fun (id, outcome) => (id, fun log => (outcome, log ++ [id]))

theorem constructFrom_logged (r : Registry α) (entries : List (String × NodeResult α))
    (log : List String) :
    constructFrom r (logged entries) log =
      ((AssetOracle.constructFrom r entries).result,
        log ++ (AssetOracle.constructFrom r entries).constructed) := by
  induction entries generalizing r log with
  | nil => simp [logged, constructFrom, AssetOracle.constructFrom]
  | cons entry entries ih =>
    obtain ⟨id, outcome⟩ := entry
    rw [logged, List.map_cons, ← logged]
    cases outcome with
    | error e => rfl
    | ok client =>
      simp only [constructFrom, AssetOracle.constructFrom, ih, List.append_assoc,
        List.singleton_append]

end Maker

/-- Constructors are run in their order and each at most once, up to the first failure. If one fails,
    those before it and itself are the ones that ran, its error is what is returned, and there is no
    registry. If none fails, all ran, an id finds the client of the last pair whose id has the same
    lower-case form, and there are as many clients as different lower-case forms. Constructors that
    act on a world leave it as the ones that ran, run one after the other, leave it; and what is said
    to have run is what such constructors write down. -/
theorem construct_in_order :
    (∀ entries : List (String × NodeResult α),
      (∃ made : List (String × α), entries = made.map (fun e => (e.1, .ok e.2)) ∧
        construct entries = ⟨entries.map (·.1), .ok (ofHistory made)⟩ ∧
        (∀ query, (ofHistory made).get query =
          match latest made (lowercase query) with
          | some client => .ok client
          | none => .error (.notFound query)) ∧
        (ofHistory made).size = (entries.map fun e => lowercase e.1).toFinset.card) ∨
      ∃ (made : List (String × α)) (id : String) (e : NodeError)
        (rest : List (String × NodeResult α)),
        entries = made.map (fun e => (e.1, .ok e.2)) ++ (id, .error e) :: rest ∧
        construct entries = ⟨made.map (·.1) ++ [id], .error e⟩) ∧
    (∀ (entries : List (String × Maker σ α)) (world : σ),
      (∃ made after, Maker.Makes entries world made after ∧
        Maker.construct entries world = (.ok (ofHistory made), after)) ∨
      ∃ before id make rest made reached e after, entries = before ++ (id, make) :: rest ∧
        Maker.Makes before world made reached ∧ make reached = (.error e, after) ∧
        Maker.construct entries world = (.error e, after)) ∧
    ∀ entries : List (String × NodeResult α),
      Maker.construct (Maker.logged entries) [] =
        ((construct entries).result, (construct entries).constructed) := by
  refine ⟨fun entries => ?_, Maker.construct_cases, fun entries => ?_⟩
  · rcases exists_first_failure entries with ⟨made, rfl⟩ | ⟨made, id, e, rest, rfl⟩
    · have hids : (succeeding made).map (·.1) = made.map (·.1) := by
        simp [succeeding, Function.comp_def]
      have hkeys : ((succeeding made).map fun e => lowercase e.1) =
          made.map fun e => lowercase e.1 := by
        simp [succeeding, Function.comp_def]
      refine .inl ⟨made, rfl, ?_, Registry.get_ofHistory made, ?_⟩
      · rw [construct_of_made, hids]
      · rw [Registry.size_ofHistory, hkeys]
    · exact .inr ⟨made, id, e, rest, rfl, construct_of_failure made id e rest⟩
  · exact Maker.constructFrom_logged .empty entries []

end AssetOracle
