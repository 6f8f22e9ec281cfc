import TxnLog.Proofs.CommandLine.Announced
import TxnLog.Proofs.CommandLine.Refusal

/-!
# How the program ends

Once the settings can be used and the log is there, what is left is to announce the settings and to
tail the log. Every run on a file ends the program (`exists_conclude`), with a code that tells how
the run went (`ExitCode.Tells`): where there is no header the run fails before it prints anything,
and behind a header it ends in one of three ways, each with a code of its own
(`exists_conclude_of_ends`). So the program ends with an exit code, unless its settings cannot be
announced or its waiter refuses a wait (`run_exits`).
-/

namespace TxnLog.CommandLine

open Tailer (Signal)

/-! ### What a run ends the program with -/

/-- The exit code tells how a run on a log with this content has left its tailer. -/
structure ExitCode.Tells (code : ExitCode) (content : Bytes) (final : Tailer) : Prop where
  /-- The code is 0 if and only if the end of the log was reached. -/
  done : code.status = 0 ↔ final.phase = .done
  /-- It is 130 if and only if the run was cancelled. -/
  cancelled : code.status = 130 ↔ final.phase = .cancelled
  /-- It is 2 if and only if the log does not start with a header. -/
  noHeader : code.status = 2 ↔ ¬ FileHeader.Accepted content
  /-- Without a header nothing is printed. -/
  silent : code.status = 2 → final.lines = #[]
  /-- It is 1 if and only if the log is faulty behind its header. -/
  fatal : code.status = 1 ↔ final.phase = .fatal ∧ FileHeader.Accepted content

/-- The exit code that belongs to a phase in which a run behind a header is over. -/
inductive ExitCode.Fits : ExitCode → Tailer.Phase → Prop where
  | done : Fits .success .done
  | cancelled : Fits .interrupted .cancelled
  | fatal : Fits .failure .fatal

/-- Where there is a header, the code that belongs to the phase tells how the run went. -/
theorem ExitCode.Fits.tells {code : ExitCode} {content : Bytes} {final : Tailer}
    (h : code.Fits final.phase) (haccepted : FileHeader.Accepted content) :
    code.Tells content final := by
  generalize hphase : final.phase = p at h
  cases h with
  | _ => constructor <;> simp [ExitCode.status, hphase, haccepted]

/-- Where there is no header, the code of a wrong usage tells that the run failed at once. -/
theorem ExitCode.tells_usage {content : Bytes} {final : Tailer}
    (hrefused : ¬ FileHeader.Accepted content) (hphase : final.phase = .fatal)
    (hlines : final.lines = #[]) : ExitCode.usage.Tells content final := by
  constructor <;> simp [ExitCode.status, hphase, hrefused, hlines]

/-- Every ending of a run behind a header ends the program, with the code for the phase. -/
theorem exists_conclude_of_ends {m : Tailer.Moment} {last : List Tailer.Deed}
    {r : Except Tailer.Error Nat × Tailer × Tailer.Scene} (hends : m.Ends last r) (s : Session)
    (signals : List Signal) :
    ∃ c, conclude s r.1 signals = .ok c ∧ c.code.Fits r.2.1.phase := by
  cases hends with
  | finished _ _ => exact ⟨_, rfl, .done⟩
  | cancelled _ => exact ⟨_, rfl, .cancelled⟩
  | interrupted _ _ => exact ⟨_, rfl, .cancelled⟩
  | failed _ hlook =>
    -- What is refused behind the header is not the header.
    rcases Tailer.of_look_refused hlook with ⟨cause, -, rfl⟩ | ⟨f, -, hjudge⟩
    · exact ⟨_, rfl, .fatal⟩
    · rcases Tailer.of_judge_error hjudge with rfl | ⟨cause, rfl⟩
      · exact ⟨_, rfl, .fatal⟩
      · exact ⟨_, rfl, .fatal⟩

/-- Every run on a file ends the program, with a code that tells how the run went. -/
theorem exists_conclude {t : Tailer} (hinit : t.phase = .init) (hlines : t.lines = #[])
    {scene : Tailer.Scene} (hpresent : scene.present = true) (s : Session)
    (signals : List Signal) :
    ∃ c, conclude s (t.run scene).1 signals = .ok c
      ∧ c.code.Tells scene.content (t.run scene).2.1 := by
  have hiff := FileHeader.exists_decode_iff scene.content
  cases hheader : FileHeader.decode scene.content with
  | error e =>
    have hrefused : ¬ FileHeader.Accepted scene.content := by
      rw [← hiff, hheader]
      simp
    rw [Tailer.run_of_header_error hinit hpresent hheader]
    cases e with
    | truncated _ => exact ⟨_, rfl, ExitCode.tells_usage hrefused rfl hlines⟩
    | wrongMagic _ => exact ⟨_, rfl, ExitCode.tells_usage hrefused rfl hlines⟩
  | ok header =>
    obtain ⟨deeds, m, last, -, hends⟩ := Tailer.exists_reaches_ends hinit hpresent hheader
    obtain ⟨c, hconclude, hfits⟩ := exists_conclude_of_ends hends s signals
    exact ⟨c, hconclude, hfits.tells (hiff.mp ⟨header, hheader⟩)⟩

/-! ### The program -/

/-- Where the settings can be used, the intervals have a number of seconds and the log is there, the
program ends as it should if and only if the settings can be announced and no wait of the run is
refused: it exits with a code that tells how the run on the log went, whatever the log holds,
whatever happens in the waits and whenever a signal arrives. If the settings cannot be announced,
the program fails before it opens the log; if the waiter refuses a wait, in the run, as it enters
that wait. The waiter refuses only waits that are too long. -/
theorem run_exits {words : List String} {w : World} {options : Options} {s : Session} {t : Tailer}
    {content : Bytes} (hparse : Options.parse words = .ok options)
    (hsession : Session.ofOptions options w.environment w.readSettings = .ok s)
    (htailer : s.tailer = .ok t) (hfile : w.folder.find s.path = .file content) :
    (s.isAnnounceable = true →
      (w.refusal? t content = none →
        ∃ e, run words w = .exited e
          ∧ e.tailer = some (t.run (w.scene content)).2.1
          ∧ e.code.Tells content (t.run (w.scene content)).2.1)
      ∧ ∀ f asleep, w.refusal? t content = some (f, asleep) →
        ∃ e, run words w = .refused f e ∧ e.tailer = some asleep)
    ∧ (s.isAnnounceable = false →
      ∃ f e, run words w = .faulty f e ∧ s.Unannounced f ∧ e.tailer = none)
    ∧ w.RefusesOnlyLong t content := by
  obtain ⟨hpresent, hcontent⟩ := w.scene_eq content
  obtain ⟨o, m, q, rfl, htimeout⟩ := Session.fresh_of_tailer hsession htailer
  refine ⟨?_, ?_, w.refusesOnlyLong htimeout content⟩
  · intro hable
    obtain ⟨announced, hannounce⟩ := Session.announce_of_isAnnounceable hable
    refine ⟨?_, ?_⟩
    · intro hnone
      -- Whichever signals have arrived by the end, the run ends the program.
      have hends := exists_conclude (t := { options := o }) rfl rfl hpresent s
      obtain ⟨c, hconclude, htells⟩ := hends (w.received
        (({ options := o } : Tailer).run (w.scene content)).2.1.lines.size
        (({ options := o } : Tailer).run (w.scene content)).2.2.signals)
      rw [hcontent] at htells
      unfold run
      simp only [hparse, hsession, hannounce, hfile, Session.follow, htailer, hnone, hconclude]
      exact ⟨_, rfl, rfl, htells⟩
    · intro f asleep hrefused
      unfold run
      simp only [hparse, hsession, hannounce, hfile, Session.follow, htailer, hrefused]
      exact ⟨_, rfl, rfl⟩
  · intro hunable
    obtain ⟨f, hannounce, hfault⟩ := Session.unannounced_of_not_isAnnounceable hunable
    unfold run
    simp only [hparse, hsession, hannounce]
    exact ⟨f, _, rfl, hfault, rfl⟩

/-! ### A world with a log of one record -/

/-- A world in which the environment names a settings file that holds the settings. -/
def World.sample (settings : Settings) : World where
  environment := fun name => if name = Settings.fileVariable then some "settings.yaml" else none
  readSettings := fun _ => .ok (.mapping settings)
  folder := { files := [(["log.1"], Log.single.bytes)] }

/-- The same world without settings, in which a signal arrives as soon as the banner is printed. -/
def World.signalled : World := { World.sample [] with arrival := some ⟨.terminate, 1⟩ }

/-- The command line that names the log. -/
theorem parse_sample : Options.parse ["log.1"] = .ok { logFile := "log.1" } := by
  have hclassify : classifyAll ["log.1"] = .ok [.argument "log.1"] := rfl
  have htake : Progress.takeAll {} [.argument "log.1"] = .ok { logFile := some "log.1" } := by
    simp [Progress.takeAll]
  unfold Options.parse
  rw [hclassify, bind_eq_ok_iff]
  refine ⟨_, rfl, ?_⟩
  rw [htake]
  rfl

/-- The program is cancelled by the signal, and exits with the code for that. -/
theorem run_exits_signalled :
    ∃ e, run ["log.1"] World.signalled = .exited e ∧ e.code.status = 130 := by
  obtain ⟨s, t, hsession, hsettings, hformat, htailer, hfile⟩ : ∃ s t,
      Session.ofOptions { logFile := "log.1" } World.signalled.environment
        World.signalled.readSettings = .ok s
      ∧ s.settings = Settings.defaults ∧ s.setup.format = .console ∧ s.tailer = .ok t
      ∧ World.signalled.folder.find s.path = .file Log.single.bytes :=
    ⟨_, _, rfl, rfl, rfl, rfl, rfl⟩
  obtain ⟨hable, -, honly⟩ := run_exits parse_sample hsession htailer hfile
  obtain ⟨o, m, q, rfl, -⟩ := Session.fresh_of_tailer hsession htailer
  have hannounceable : s.isAnnounceable = true := by
    unfold Session.isAnnounceable
    rw [hsettings, hformat]
    decide +kernel
  -- The banner is the only line that is printed, and the run comes to no wait.
  have hheader : FileHeader.decode (World.signalled.scene Log.single.bytes).content
      = .ok Log.single.header := Log.single.decode_head _
  have hrun := (Tailer.reaches_opening (t := { options := o }) rfl hheader).run_of_ends rfl rfl
    (.cancelled rfl)
  have hnone : World.signalled.refusal? { options := o } Log.single.bytes = none := by
    rw [Option.eq_none_iff_forall_ne_some]
    rintro ⟨f, asleep⟩ hrefused
    obtain ⟨-, wait, hwait, -⟩ := honly.refused f asleep hrefused
    rw [hrun] at hwait
    simp [Tailer.gaveUp, Tailer.opening, Tailer.opened] at hwait
  obtain ⟨e, hexited, -, htells⟩ := (hable hannounceable).1 hnone
  refine ⟨e, hexited, htells.cancelled.mpr ?_⟩
  rw [hrun]
  rfl

/-- An integer that has one digit too many to be written. -/
def unwritable : Int := Literal.bound

/-- Where the settings hold this integer under a name that nobody asks for, everything is there for
a run on the log, but the program fails. -/
theorem run_unwritable :
    ∃ s t, Options.parse ["log.1"] = .ok { logFile := "log.1" }
      ∧ Session.ofOptions { logFile := "log.1" }
        (World.sample [("extra", .int unwritable)]).environment
        (World.sample [("extra", .int unwritable)]).readSettings = .ok s
      ∧ s.tailer = .ok t
      ∧ (World.sample [("extra", .int unwritable)]).folder.find s.path = .file Log.single.bytes
      ∧ ∃ e, run ["log.1"] (World.sample [("extra", .int unwritable)]) = .faulty .unwritable e := by
  obtain ⟨s, t, hsession, hsettings, hformat, htailer, hfile⟩ : ∃ s t,
      Session.ofOptions { logFile := "log.1" }
        (World.sample [("extra", .int unwritable)]).environment
        (World.sample [("extra", .int unwritable)]).readSettings = .ok s
      ∧ s.settings = Settings.defaults ++ [(.text "extra", .int unwritable)]
      ∧ s.setup.format = .console ∧ s.tailer = .ok t
      ∧ (World.sample [("extra", .int unwritable)]).folder.find s.path = .file Log.single.bytes :=
    ⟨_, _, rfl, rfl, rfl, rfl, rfl⟩
  have hunwritable : (Value.mapping s.settings).isWritable = false := by
    have hlarge : Literal.isWritable unwritable = false := by
      unfold Literal.isWritable unwritable
      rw [Int.natAbs_natCast]
      exact decide_eq_false (Nat.lt_irrefl _)
    rw [hsettings]
    simp [Settings.defaults, Value.isWritable, Value.entriesAreWritable, Value.int,
      Number.isWritable, hlarge]
  refine ⟨s, t, parse_sample, hsession, htailer, hfile, ?_⟩
  obtain ⟨f, hannounce, hfault⟩ := Session.unannounced_of_not_isAnnounceable (s := s)
    (by rw [Session.isAnnounceable, hunwritable, Bool.false_and])
  cases hfault with
  | unwritable =>
    unfold run
    simp only [parse_sample, hsession, hannounce]
    exact ⟨_, rfl⟩
  | foreignKey hjson =>
    rw [hformat] at hjson
    contradiction

end TxnLog.CommandLine
