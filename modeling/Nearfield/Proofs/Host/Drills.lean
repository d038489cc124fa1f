/-
# Drills are hosts

A drill has a host of its own, on a rig. Its steps that start scans, let them go on,
give them up or stop the wait for a tag are events of that host, and so are new keys;
every other step changes the rig at most. So a drill goes through the states of a run
of its host, from one that has not started a scan (`Drill.host_after`), and reports
what finishes in it (`Drill.perform_scan`, `Drill.perform_poll`).

Key definitions: `Drill.host`, `Drill.Reaches`.
Key theorems: `Drill.perform_scan`, `Drill.perform_poll`, `Drill.reaches_perform`,
`Drill.host_after`.
-/
import Nearfield.Bench.Drill
import Nearfield.Proofs.Host.Basic

namespace Nearfield
namespace Bench

/-- A rig may be changed in any way. -/
instance : Changeable Rig (Rig → Rig) where
  change f rig := f rig

namespace Drill

def host (d : Drill) : Host Rig := ⟨d.keys, d.config, d.queue, d.nextId⟩

/-- The host of the one drill may get to where the host of the other one is. -/
def Reaches (d d' : Drill) : Prop := ∃ events : List (Event (Rig → Rig)), d'.host = d.host.after events

theorem Reaches.refl (d : Drill) : d.Reaches d := ⟨[], rfl⟩

theorem Reaches.trans {d d' d'' : Drill} (h : d.Reaches d') (h' : d'.Reaches d'') : d.Reaches d'' := by
  obtain ⟨events, hevents⟩ := h
  obtain ⟨events', hevents'⟩ := h'
  exact ⟨events ++ events', by rw [hevents', hevents, Host.after_append]⟩

theorem Reaches.ordered {d d' : Drill} (h : d.Reaches d') (hordered : d.host.Ordered) : d'.host.Ordered := by
  obtain ⟨events, hevents⟩ := h
  rw [hevents]
  exact hordered.after events

/-! ### Steps -/

/-- A scan is started under the next number. Without its keys it has failed already;
otherwise the drill reports whether it has finished. -/
theorem perform_scan (d : Drill) (operation : Operation) :
    (d.perform (.scan operation)).1 = .scanned d.nextId
        (match operation.request d.config d.keys.current with
          | .error failure => some (.error failure)
          | .ok _ => (d.host.step (.scan operation)).1.head?.map (·.result)) ∧
      (d.perform (.scan operation)).2.host = (d.host.step (.scan operation)).2 := by
  rw [perform]
  unfold scan Host.step host
  dsimp only
  cases operation.request d.config d.keys.current <;> exact ⟨rfl, rfl⟩

/-- To poll is to poll every pending scan. -/
theorem perform_poll {d : Drill} (hordered : d.host.Ordered) :
    (d.perform .poll).1 = .polled (d.host.finished (d.host.ids.map .poll))
        (d.host.after (d.host.ids.map .poll)).ids ∧
      (d.perform .poll).2.host = d.host.after (d.host.ids.map .poll) := by
  have hpoll : d.queue.poll = _ := hordered.poll_eq
  obtain ⟨-, hafter⟩ := d.host.run_polls d.host.ids
  rw [perform, hpoll, hafter]
  exact ⟨rfl, rfl⟩

theorem reaches_setRig (d : Drill) (rig : Rig) : d.Reaches (d.setRig rig) := ⟨[.change fun _ => rig], rfl⟩

theorem reaches_withTag (d : Drill) (act : Tag → ByteStream → Bytes × Tag × ByteStream) :
    d.Reaches (d.withTag act).2 := by
  unfold withTag
  split
  · exact .refl d
  · exact d.reaches_setRig _

theorem reaches_activate (d : Drill) : d.Reaches d.activate.2 := by
  unfold activate
  split
  · exact d.reaches_setRig _
  · exact .refl d
  · exact .refl d

theorem reaches_command (d : Drill) (step : ChannelStep) : d.Reaches (d.command step).2 := by
  unfold command
  split
  · exact .refl d
  · exact d.reaches_setRig _

/-- Steps on a fresh journal, if each of them is a run of the host. -/
theorem reaches_repeated {s : Step} (hstep : ∀ d : Drill, d.host.Ordered → d.Reaches (d.perform s).2) (n : Nat)
    (last : Result × Drill) (hordered : last.2.host.Ordered) : last.2.Reaches (perform.repeated s last n).2 := by
  induction n generalizing last with
  | zero =>
    rw [perform.repeated]
    exact .refl last.2
  | succ n ih =>
    rw [perform.repeated]
    have hfresh := last.2.reaches_setRig { last.2.rig with journal := [] }
    have hnow := hfresh.trans (hstep _ (hfresh.ordered hordered))
    exact hnow.trans (ih _ (hnow.ordered hordered))

/-- **Every step of a drill is a run of its host.** -/
theorem reaches_perform (s : Step) {d : Drill} (hordered : d.host.Ordered) : d.Reaches (d.perform s).2 := by
  induction s generalizing d with
  | scan operation => exact ⟨[.scan operation], (d.perform_scan operation).2⟩
  | poll => exact ⟨_, (perform_poll hordered).2⟩
  | drop id => rw [perform]; exact ⟨[.drop id], rfl⟩
  | cancel => rw [perform]; exact ⟨[.cancel], rfl⟩
  | updateKeys update => rw [perform]; exact ⟨[.updateKeys update], rfl⟩
  | present tag copied => rw [perform]; exact d.reaches_setRig _
  | remove => rw [perform]; exact d.reaches_setRig _
  | isPresent => rw [perform]; exact .refl d
  | disturb disturbances => rw [perform]; exact d.reaches_setRig _
  | script uid answers => rw [perform]; exact d.reaches_setRig _
  | inspect =>
    rw [perform]
    split <;> exact .refl d
  | tagFrame frame => rw [perform]; exact d.reaches_withTag _
  | tagActivate => rw [perform]; exact d.reaches_withTag _
  | page page => rw [perform]; exact .refl d
  | pages start count => rw [perform]; exact .refl d
  | setPages start data => rw [perform]; exact d.reaches_setRig _
  | activate => rw [perform]; exact d.reaches_activate
  | channel step => rw [perform]; exact d.reaches_command step
  | again count step ih =>
    rw [perform]
    exact reaches_repeated (fun _ h => ih h) count (.nothing, d) hordered

/-! ### Whole drills -/

/-- The drill after some steps. -/
def after (d : Drill) (steps : List Step) : Drill := steps.foldl (fun d s => (d.step s).2.2) d

theorem reaches_after {d : Drill} (hordered : d.host.Ordered) (steps : List Step) : d.Reaches (d.after steps) := by
  induction steps generalizing d with
  | nil => exact .refl d
  | cons s steps ih =>
    have hfresh := d.reaches_setRig { d.rig with journal := [] }
    have hnow : d.Reaches (d.step s).2.2 := hfresh.trans (reaches_perform s (hfresh.ordered hordered))
    exact hnow.trans (ih (hnow.ordered hordered))

/-- **A drill is a run of a host that has not started a scan.** -/
theorem host_after (field : Field) (rng : ByteStream) (keys : KeyPair) (config : EngineConfig)
    (steps : List Step) : ∃ events : List (Event (Rig → Rig)),
      ((new field rng keys config).after steps).host = (Host.new (Rig.new field rng) ⟨keys⟩ config).after events := by
  have hordered : (new field rng keys config).host.Ordered := Host.ordered_new (Rig.new field rng) ⟨keys⟩ config
  exact reaches_after hordered steps

end Drill
end Bench
end Nearfield
