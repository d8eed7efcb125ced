import AffinidiMessaging.Library.Transition
import AffinidiMessaging.Mediator.Conservation
import AffinidiMessaging.Mediator.Streaming

/-! # Mediators that share the registry

A client moves by registering at another mediator. The mediator it left does not look at whose
entry it changes, so its late calls can still hit the entry of the new one.
-/

namespace AffinidiMessaging.Mediator

open Redis Fallible Transition

/-- The entry names the mediator, whether live or not. -/
def PointsTo (uuid : String) (entry : Option String) : Prop :=
  entry = some (uuid ++ ":TRUE") ∨ entry = some (uuid ++ ":FALSE")

instance (uuid : String) (entry : Option String) : Decidable (PointsTo uuid entry) :=
  inferInstanceAs (Decidable (_ ∨ _))

/-- The mediators, each with its uuid, and what they do in any order. -/
def mediators (env : Environment) : System Db (String × RegistryOp) where
  init db := db .globalStreaming = none ∧ ∀ uuid, db (.streamingSessions uuid) = none
  step db call db' := db' = stateAfter (call.2.run env call.1) db

/-- No operation but a registration touches the entry of a client of another mediator, and a
clean start leaves no entry of its own. -/
structure Undisturbed (uuid : String) (op : RegistryOp) (r r' : Registry) : Prop where
  others : ∀ d v, v ≠ uuid → PointsTo v (r.entry d) → (∀ d', op = .register d' → d' ≠ d) →
    r'.entry d = r.entry d
  cleaned : ∀ random, op = .cleanStart random → ∀ d, ¬ PointsTo uuid (r'.entry d)

def PointsElsewhere (uuid : String) (entry : Option String) : Prop := ∃ v, v ≠ uuid ∧ PointsTo v entry

/-- The mediator only acts for a client that is not with another one, and makes live only those of
its own sessions. -/
def Considerate (r : Registry) (uuid : String) : RegistryOp → Prop
  | .register _ => True
  | .startLive d | .stopLive d => ¬ PointsElsewhere uuid (r.entry d) ∧ d ∈ r.sessions uuid
  | .deregister d => ¬ PointsElsewhere uuid (r.entry d)
  | .cleanStart _ => ∀ d ∈ r.sessions uuid, ¬ PointsElsewhere uuid (r.entry d)

def considerateMediators (env : Environment) : System Db (String × RegistryOp) :=
  (mediators env).restrict fun db call => Considerate (.ofDb db) call.1 call.2

theorem pointsTo_inj {u v : String} {entry : Option String} (hu : PointsTo u entry) (hv : PointsTo v entry) :
    u = v := by
  have hSame {s t : String} (hTail : s = t) {a b : String} (h : some (a ++ s) = some (b ++ t)) :
      a = b := by
    subst hTail
    have hList := congrArg String.toList (Option.some.inj h)
    rw [String.toList_append, String.toList_append] at hList
    exact String.toList_inj.mp (List.append_cancel_right hList)
  have hLast {a b : String} (h : some (a ++ ":TRUE") = some (b ++ ":FALSE")) : False := by
    have hList := congrArg (fun s => (String.toList s).reverse.take 3) (Option.some.inj h)
    simp [String.toList_append] at hList
  rcases hu with rfl | rfl <;> rcases hv with hv | hv
  · exact hSame rfl hv
  · exact (hLast hv).elim
  · exact (hLast hv.symm).elim
  · exact hSame rfl hv

theorem not_pointsTo_none (uuid : String) : ¬ PointsTo uuid none := by
  simp [PointsTo]

/-- Every entry of a mediator is among its sessions. -/
def SessionsCover (r : Registry) : Prop := ∀ uuid d, PointsTo uuid (r.entry d) → d ∈ r.sessions uuid

theorem pointsTo_register (uuid : String) : PointsTo uuid (some (uuid ++ ":FALSE")) := .inr rfl

theorem pointsTo_live (uuid : String) : PointsTo uuid (some (uuid ++ ":" ++ "TRUE")) := by
  rw [String.append_assoc]
  exact .inl rfl

theorem pointsTo_notLive (uuid : String) : PointsTo uuid (some (uuid ++ ":" ++ "FALSE")) := by
  rw [String.append_assoc]
  exact .inr rfl

theorem SessionsCover.setEntry {r : Registry} (h : SessionsCover r) {uuid d : String} {value : String}
    (hPoints : PointsTo uuid (some value)) (hMem : d ∈ r.sessions uuid) :
    SessionsCover (r.setEntry d (some value)) := by
  intro v g hv
  rw [Registry.setEntry_entry] at hv
  rw [Registry.setEntry_sessions]
  split at hv
  · next hg =>
    subst hg
    rw [pointsTo_inj hv hPoints]
    exact hMem
  · exact h v g hv

theorem SessionsCover.after {r : Registry} (h : SessionsCover r) {uuid : String} {op : RegistryOp}
    (hConsiderate : Considerate r uuid op) : SessionsCover (r.after uuid op) := by
  cases op with
  | register d =>
    refine SessionsCover.setEntry (fun v g hv => ?_) (pointsTo_register uuid) ?_
    · rw [Registry.setSessions_sessions]
      split
      · next hSame =>
        subst hSame
        exact Set.mem_insert_of_mem _ (h v g hv)
      · exact h v g hv
    · rw [Registry.setSessions_sessions, if_pos rfl]
      exact Set.mem_insert _ _
  | startLive d => exact h.setEntry (pointsTo_live uuid) hConsiderate.2
  | stopLive d => exact h.setEntry (pointsTo_notLive uuid) hConsiderate.2
  | deregister d =>
    intro v g hv
    rw [Registry.after, Registry.setEntry_entry] at hv
    rw [Registry.after, Registry.setEntry_sessions, Registry.setSessions_sessions]
    split at hv
    · exact absurd hv (not_pointsTo_none v)
    · next hg =>
      split
      · next hSame =>
        subst hSame
        exact ⟨h v g hv, hg⟩
      · exact h v g hv
  | cleanStart random =>
    intro v g hv
    simp only [Registry.after] at hv ⊢
    split at hv
    · exact absurd hv (not_pointsTo_none v)
    · next hg =>
      have hMem := h v g hv
      rw [Function.update_of_ne]
      · exact hMem
      · rintro rfl
        exact hg hMem

theorem undisturbed_after {r : Registry} (h : SessionsCover r) {uuid : String} {op : RegistryOp}
    (hConsiderate : Considerate r uuid op) : Undisturbed uuid op r (r.after uuid op) := by
  constructor
  · intro d v hv hPoints hOther
    have hMine {d' : String} (hNot : ¬ PointsElsewhere uuid (r.entry d')) : d ≠ d' := by
      rintro rfl
      exact hNot ⟨v, hv, hPoints⟩
    cases op with
    | register d' =>
      rw [Registry.after, Registry.setEntry_entry, if_neg (hOther d' rfl).symm]
      rfl
    | startLive d' => rw [Registry.after, Registry.setEntry_entry, if_neg (hMine hConsiderate.1)]
    | stopLive d' => rw [Registry.after, Registry.setEntry_entry, if_neg (hMine hConsiderate.1)]
    | deregister d' =>
      rw [Registry.after, Registry.setEntry_entry, if_neg (hMine hConsiderate)]
      rfl
    | cleanStart random =>
      refine if_neg fun hMem => ?_
      exact hConsiderate d hMem ⟨v, hv, hPoints⟩
  · rintro random rfl d hPoints
    simp only [Registry.after] at hPoints
    split at hPoints
    · exact not_pointsTo_none uuid hPoints
    · next hd => exact hd (h uuid d hPoints)

theorem considerate_invariant (env : Environment) :
    (considerateMediators env).Invariant fun db => Streamable db ∧ SessionsCover (.ofDb db) where
  init := by
    rintro db ⟨hEntries, hSessions⟩
    refine ⟨⟨⟨[], by rw [hEntries]; rfl⟩, fun uuid => ⟨[], by rw [hSessions]; rfl⟩⟩, ?_⟩
    intro uuid d hPoints
    have hNone : (Registry.ofDb db).entry d = none := by
      simp [Registry.ofDb, field, hEntries]
    rw [hNone] at hPoints
    exact absurd hPoints (not_pointsTo_none uuid)
  step := by
    rintro db ⟨uuid, op⟩ db' ⟨hStreamable, hCover⟩ ⟨hConsiderate, rfl⟩
    obtain ⟨db', hRun, hStreamable', hAfter⟩ := op.run_refines env uuid hStreamable
    rw [stateAfter_of_ok hRun]
    exact ⟨hStreamable', hAfter ▸ hCover.after hConsiderate⟩

/-- Among considerate mediators nobody disturbs the registrations of another one. -/
theorem registrations_undisturbed (env : Environment) {db db' : Db} {uuid : String} {op : RegistryOp}
    (hReachable : (considerateMediators env).Reachable db)
    (hStep : (considerateMediators env).step db (uuid, op) db') :
    Undisturbed uuid op (.ofDb db) (.ofDb db') := by
  obtain ⟨hStreamable, hCover⟩ := (considerate_invariant env).holds hReachable
  obtain ⟨hConsiderate, rfl⟩ := hStep
  obtain ⟨db', hRun, -, hAfter⟩ := op.run_refines env uuid hStreamable
  rw [stateAfter_of_ok hRun, hAfter]
  exact undisturbed_after hCover hConsiderate

def registeredAt (uuid didHash : String) (db : Db) : Db :=
  stateAfter ((RegistryOp.register didHash).run sampleEnvironment uuid) db

/-- A client leaves a mediator by the book, while another one is registered elsewhere. -/
theorem registrations_undisturbed_leave :
    ∃ db db', (considerateMediators sampleEnvironment).Reachable db ∧
      (considerateMediators sampleEnvironment).step db ("mediator-1", .deregister bobHash) db' ∧
      Undisturbed "mediator-1" (.deregister bobHash) (.ofDb db) (.ofDb db') ∧
      (Registry.ofDb db').entry aliceHash = some "mediator-2:FALSE" := by
  have hAlice : (considerateMediators sampleEnvironment).Reachable
      (registeredAt "mediator-2" aliceHash fun _ => none) :=
    .step (l := ("mediator-2", .register aliceHash)) (.init ⟨rfl, fun _ => rfl⟩) ⟨trivial, rfl⟩
  have hReachable : (considerateMediators sampleEnvironment).Reachable
      (registeredAt "mediator-1" bobHash (registeredAt "mediator-2" aliceHash fun _ => none)) :=
    .step (l := ("mediator-1", .register bobHash)) hAlice ⟨trivial, rfl⟩
  have hStep : (considerateMediators sampleEnvironment).step
      (registeredAt "mediator-1" bobHash (registeredAt "mediator-2" aliceHash fun _ => none))
      ("mediator-1", .deregister bobHash)
      (stateAfter ((RegistryOp.deregister bobHash).run sampleEnvironment "mediator-1")
        (registeredAt "mediator-1" bobHash (registeredAt "mediator-2" aliceHash fun _ => none))) := by
    refine ⟨?_, rfl⟩
    rintro ⟨v, hv, hPoints⟩
    exact hv (pointsTo_inj hPoints (.inr rfl))
  have hUndisturbed := registrations_undisturbed sampleEnvironment hReachable hStep
  exact ⟨_, _, hReachable, hStep, hUndisturbed,
    hUndisturbed.others aliceHash "mediator-2" (by decide) (by decide) fun d hOp => by cases hOp⟩

/-- The client registers at a second mediator before the first one notices that it left. -/
theorem registration_disturbed :
    ∃ db db', (mediators sampleEnvironment).Reachable db ∧
      (mediators sampleEnvironment).step db ("mediator-1", .deregister bobHash) db' ∧
      ¬ Undisturbed "mediator-1" (.deregister bobHash) (.ofDb db) (.ofDb db') := by
  have hReachable : (mediators sampleEnvironment).Reachable
      (registeredAt "mediator-2" bobHash (registeredAt "mediator-1" bobHash fun _ => none)) :=
    .step (l := ("mediator-2", .register bobHash))
      (.step (l := ("mediator-1", .register bobHash)) (.init ⟨rfl, fun _ => rfl⟩) rfl) rfl
  refine ⟨_, _, hReachable, rfl, fun h => ?_⟩
  have hSame := h.others bobHash "mediator-2" (by decide) (by decide) (fun _ hOp => by cases hOp)
  revert hSame
  decide

end AffinidiMessaging.Mediator
