import PluginKit.Plugin.Scripted
import PluginKit.Proofs.Session.Frame

/-!
# `PluginKit.Proofs.Session.Report`: a call ends as the plugin's method did

The daemon learns of a plugin by a status and by lines in its log. A call takes a course: either it
reaches a method of the plugin, or it is refused before. The courses say which arguments lead where,
and `Ends` says how each course ends, with nobody to take the messages but the daemon itself.

* `Course`, `ReadCourse`, `WriteCourse`, `FlushCourse`, `LogCourse`: where a call leads.
* `Ends`: how a course ends; a course that fails leaves exactly one line.
* `status_call_ends`, `status_error_ends`: a method that is run, and a call that is refused.
* `calls_end_by_course`: what that says of each kind of call.
* `log_without_data_is_silent`: a line for a plugin that is missing is dropped without a word.
-/

set_option autoImplicit false

namespace PluginKit

namespace Session

variable {abi : Abi} {σ : Type}

/-! ### One line for an error -/

/-- Nobody takes messages, neither for a part of the program nor for the process. -/
def Unsubscribed (s : Session abi σ) : Prop := s.world.diagnostics.loggers = []

/-- The session with one more error in the daemon's log: the operation and then the texts, on one
line without zero characters. -/
def logged (s : Session abi σ) (operation : String) (texts : List String) : Session abi σ :=
  s.mapWorld fun w => { w with daemon := { w.daemon with
    log := w.daemon.log ++ [⟨.error, String.ofList
      ((operation ++ " error: " ++ "; ".intercalate texts).toList.filter (· ≠ '\x00'))⟩] } }

/-- Without a subscriber, an error goes straight to the daemon's log. -/
theorem report_of_unsubscribed {s : Session abi σ} (h : s.Unsubscribed) (operation : String)
    (e : CallbackError) : s.report operation e = s.logged operation e.texts := by
  have hclaims : s.world.diagnostics.claims World.errorTarget .error = false := by
    unfold Diagnostics.claims
    rw [show s.world.diagnostics.loggers = [] from h]
    rfl
  show s.mapWorld (fun w => w.reportError operation e) = _
  unfold mapWorld World.reportError
  simp only [hclaims]
  rfl

/-! ### Courses and how they end -/

/-- Where a call leads. -/
inductive Course (abi : Abi) (σ : Type) where
  /-- To no method of the plugin, for a reason that the texts give. -/
  | refused (texts : List String)
  /-- To a method of the plugin. -/
  | called (method : Code abi σ Unit)

/-- How a call of an operation ends that takes a course from a session: with a status, in a session.
What is logged is stated for the case that nobody takes messages when the course ends. -/
inductive Ends (operation : String) (s : Session abi σ) :
    Course abi σ → Int → Session abi σ → Prop
  | refused {texts : List String} {t : Session abi σ}
      (line : s.Unsubscribed → t = s.logged operation texts) :
      Ends operation s (.refused texts) (-1) t
  | returned {method : Code abi σ Unit} {t : Session abi σ}
      (outcome : s.attempt method = (.ok (), t)) :
      Ends operation s (.called method) 0 t
  | failed {method : Code abi σ Unit} {f : Failure} {t u : Session abi σ}
      (outcome : s.attempt method = (.error (.failed f), t))
      (line : t.Unsubscribed →
        u = t.logged operation ("plugin encountered an error" :: f.message :: f.causes)) :
      Ends operation s (.called method) (-1) u
  | panicked {method : Code abi σ Unit} {p : Panic} {t u : Session abi σ}
      (outcome : s.attempt method = (.error (.panicked p), t))
      (line : t.Unsubscribed → u = t.logged operation ["plugin panicked"]) :
      Ends operation s (.called method) (-1) u

/-- A status zero comes from a method that was called and returned, and from nothing else. -/
theorem Ends.zero_iff {operation : String} {s t : Session abi σ} {course : Course abi σ}
    {code : Int} (h : Ends operation s course code t) :
    code = 0 ↔ ∃ method, course = .called method ∧ (s.attempt method).1 = .ok () := by
  cases h with
  | refused line => simp
  | @returned method _ outcome => simp [outcome]
  | @failed method _ _ _ outcome line => simp [outcome]
  | @panicked method _ _ _ outcome line => simp [outcome]

/-- There is no third status, so a daemon that looks for zero learns all there is to learn. -/
theorem Ends.status {operation : String} {s t : Session abi σ} {course : Course abi σ}
    {code : Int} (h : Ends operation s course code t) : code = 0 ∨ code = -1 := by
  cases h with
  | refused line => exact Or.inr rfl
  | returned outcome => exact Or.inl rfl
  | failed outcome line => exact Or.inr rfl
  | panicked outcome line => exact Or.inr rfl

/-- A method that is run for the daemon ends as `Ends` says: it returned, or its error or panic is
told. -/
theorem status_call_ends (operation : String) (s : Session abi σ) (method : Code abi σ Unit) :
    ∃ code, (status operation (s.call method).1 (s.call method).2).1 = .status code ∧
      Ends operation s (.called method) code
        (status operation (s.call method).1 (s.call method).2).2 := by
  rcases houtcome : s.attempt method with ⟨outcome, t⟩
  rw [call_eq, houtcome]
  cases outcome with
  | ok a => exact ⟨0, rfl, .returned houtcome⟩
  | error stop =>
      cases stop with
      | failed f =>
          exact ⟨-1, rfl, .failed houtcome fun h => report_of_unsubscribed h operation _⟩
      | panicked p =>
          exact ⟨-1, rfl, .panicked houtcome fun h => report_of_unsubscribed h operation _⟩

/-- What is refused ends as `Ends` says. No method is run, so the line is all that happens. -/
theorem status_error_ends (operation : String) (s : Session abi σ) (e : CallbackError) :
    ∃ code, (status operation (.error e) s).1 = .status code ∧
      Ends operation s (.refused e.texts) code (status operation (.error e) s).2 :=
  ⟨-1, rfl, .refused fun h => report_of_unsubscribed h operation e⟩

/-! ### Calls to a plugin -/

section

variable {operation : String} {data : Option PluginId} {s : Session abi σ}
  {code : Plugin abi σ → Except CallbackError (Code abi σ Unit)}

/-- A callback without its plugin is refused before its arguments are looked at. -/
theorem callPlugin_of_none (hdata : s.pluginOf data = none) :
    s.callPlugin operation data code = status operation (.error noData) s := by
  unfold callPlugin
  rw [hdata]

/-- A callback whose arguments cannot be read is refused with what is wrong with them. -/
theorem callPlugin_of_error {p : Plugin abi σ} {e : CallbackError}
    (hdata : s.pluginOf data = some p) (hcode : code p = .error e) :
    s.callPlugin operation data code = status operation (.error e) s := by
  unfold callPlugin
  rw [hdata]
  dsimp only
  rw [hcode]

/-- A callback with its plugin and with arguments that can be read runs the method. -/
theorem callPlugin_of_ok {p : Plugin abi σ} {method : Code abi σ Unit}
    (hdata : s.pluginOf data = some p) (hcode : code p = .ok method) :
    s.callPlugin operation data code
      = status operation (s.call method).1 (s.call method).2 := by
  unfold callPlugin
  rw [hdata]
  dsimp only
  rw [hcode]

end

/-! ### Where the calls lead -/

/-- The daemon calls for measurements: all it can forget is whose callback it calls. -/
inductive ReadCourse (s : Session abi σ) (data : Option PluginId) : Course abi σ → Prop
  | noData (missing : s.pluginOf data = none) :
      ReadCourse s data
        (.refused ["unexpected collectd behavior", "collectd passed no user data"])
  | called {p : Plugin abi σ} (plugin : s.pluginOf data = some p) :
      ReadCourse s data (.called p.read)

/-- The daemon hands a list over: a plugin is called with a list that decodes. -/
inductive WriteCourse (s : Session abi σ) (data : Option PluginId)
    (set : Option (DataSet abi)) (list : Option (RawList abi)) : Course abi σ → Prop
  | noData (missing : s.pluginOf data = none) :
      WriteCourse s data set list
        (.refused ["unexpected collectd behavior", "collectd passed no user data"])
  | noList {p : Plugin abi σ} (plugin : s.pluginOf data = some p)
      (missing : set = none ∨ list = none) :
      WriteCourse s data set list
        (.refused ["unexpected collectd behavior", "collectd passed no value list"])
  | undecodable {p : Plugin abi σ} {given : DataSet abi} {raw : RawList abi} {e : ReceiveError}
      (plugin : s.pluginOf data = some p) (hset : set = some given) (hlist : list = some raw)
      (decoded : ValueList.ofRaw given raw = .error e) :
      WriteCourse s data set list
        (.refused ("unexpected collectd behavior" :: e.message :: e.causes))
  | called {p : Plugin abi σ} {given : DataSet abi} {raw : RawList abi} {l : ValueList}
      (plugin : s.pluginOf data = some p) (hset : set = some given) (hlist : list = some raw)
      (decoded : ValueList.ofRaw given raw = .ok l) :
      WriteCourse s data set list (.called (p.write l))

/-- The daemon wants things written out: a plugin is called with no identifier, with one that is
text, or with none in the place of an empty one. -/
inductive FlushCourse (s : Session abi σ) (data : Option PluginId) (timeout : Ticks)
    (identifier : Option (List UInt8)) : Course abi σ → Prop
  | noData (missing : s.pluginOf data = none) :
      FlushCourse s data timeout identifier
        (.refused ["unexpected collectd behavior", "collectd passed no user data"])
  | illegible {p : Plugin abi σ} {bytes : List UInt8} {fault : Utf8.Fault}
      (plugin : s.pluginOf data = some p) (hidentifier : identifier = some bytes)
      (decoded : Utf8.decode (Terminated.bytes bytes) = .error fault) :
      FlushCourse s data timeout identifier
        (.refused ["invalid utf8 in flush identifier", fault.message])
  | unnamed {p : Plugin abi σ} (plugin : s.pluginOf data = some p)
      (hidentifier : identifier = none) :
      FlushCourse s data timeout identifier (.called (p.flush (flushTimeout timeout) none))
  | named {p : Plugin abi σ} {bytes : List UInt8} {id : String}
      (plugin : s.pluginOf data = some p) (hidentifier : identifier = some bytes)
      (decoded : Utf8.decode (Terminated.bytes bytes) = .ok id) :
      FlushCourse s data timeout identifier
        (.called (p.flush (flushTimeout timeout) (nonEmptyText id)))

/-- The daemon has a line for a plugin that is there: a plugin is called with a level that is
known, and with whatever can be read of the line. -/
inductive LogCourse (p : Plugin abi σ) (severity : Int) (line : List UInt8) : Course abi σ → Prop
  | unknown (level : Log.Severity.ofCode? severity = none) :
      LogCourse p severity line (.refused ["unknown severity: " ++ toString severity])
  | called {known : Log.Severity} (level : Log.Severity.ofCode? severity = some known) :
      LogCourse p severity line
        (.called (p.log known (Utf8.decodeLossy (Terminated.bytes line))))

/-- A call with a status ends by its course, of which there is one: with zero exactly if a method
was called and returned, and with minus one otherwise. -/
structure Answers (operation : String) (s : Session abi σ) (leads : Course abi σ → Prop)
    (result : Exit × Session abi σ) : Prop where
  course : ∃ c, leads c
  ends : ∀ c, leads c → ∃ code, result.1 = .status code ∧ Ends operation s c code result.2
  zero_iff : result.1 = .status 0 ↔
    ∃ method, leads (.called method) ∧ (s.attempt method).1 = .ok ()
  status : result.1 = .status 0 ∨ result.1 = .status (-1)

/-- The statuses follow from the course and its end. So for each call it is enough to say which
course it takes and how that ends. -/
theorem Answers.of_ends {operation : String} {s : Session abi σ} {leads : Course abi σ → Prop}
    {result : Exit × Session abi σ} (course : ∃ c, leads c)
    (ends : ∀ c, leads c → ∃ code, result.1 = .status code ∧ Ends operation s c code result.2) :
    Answers operation s leads result := by
  obtain ⟨c, hc⟩ := course
  obtain ⟨code, hcode, hend⟩ := ends c hc
  refine ⟨⟨c, hc⟩, ends, ⟨fun hzero => ?_, ?_⟩, ?_⟩
  · rw [hcode] at hzero
    obtain ⟨method, rfl, hok⟩ := hend.zero_iff.mp (Exit.status.inj hzero)
    exact ⟨method, hc, hok⟩
  · rintro ⟨method, hmethod, hok⟩
    obtain ⟨other, hother, hend⟩ := ends _ hmethod
    rw [hother, hend.zero_iff.mpr ⟨method, rfl, hok⟩]
  · rw [hcode]
    rcases hend.status with rfl | rfl
    · exact Or.inl rfl
    · exact Or.inr rfl

/-- Reading takes no arguments but the plugin. -/
theorem read_answers (data : Option PluginId) (s : Session abi σ) :
    Answers "read" s (ReadCourse s data) (s.read data) := by
  refine Answers.of_ends ?_ fun c hc => ?_
  · cases hdata : s.pluginOf data with
    | none => exact ⟨_, .noData hdata⟩
    | some p => exact ⟨_, .called hdata⟩
  · unfold read
    cases hc with
    | noData hdata =>
        rw [callPlugin_of_none hdata]
        exact status_error_ends "read" s noData
    | called hdata =>
        rw [callPlugin_of_ok hdata rfl]
        exact status_call_ends "read" s _

/-- Writing decodes a list first. What is missing is found before it is decoded, and the plugin
before the list. -/
theorem write_answers (data : Option PluginId) (set : Option (DataSet abi))
    (list : Option (RawList abi)) (s : Session abi σ) :
    Answers "writing" s (WriteCourse s data set list) (s.write data set list) := by
  -- First that one of the four courses is taken, then how each of them ends.
  refine Answers.of_ends ?_ fun c hc => ?_
  · cases hdata : s.pluginOf data with
    | none => exact ⟨_, .noData hdata⟩
    | some p =>
        cases set with
        | none => exact ⟨_, .noList hdata (Or.inl rfl)⟩
        | some given =>
            cases list with
            | none => exact ⟨_, .noList hdata (Or.inr rfl)⟩
            | some raw =>
                cases hdecoded : ValueList.ofRaw given raw with
                | error e => exact ⟨_, .undecodable hdata rfl rfl hdecoded⟩
                | ok l => exact ⟨_, .called hdata rfl rfl hdecoded⟩
  · unfold write
    cases hc with
    | noData hdata =>
        rw [callPlugin_of_none hdata]
        exact status_error_ends "writing" s noData
    | noList hdata hmissing =>
        have hreceived : receivedList set list = .error noList := by
          rcases hmissing with rfl | rfl
          · rfl
          · cases set <;> rfl
        rw [callPlugin_of_error hdata (by rw [hreceived]; rfl)]
        exact status_error_ends "writing" s noList
    | @undecodable _ given raw e hdata hset hlist hdecoded =>
        subst hset hlist
        have hreceived : receivedList (some given) (some raw)
            = .error (.daemon (Failure.ofReceive e)) := by
          show (ValueList.ofRaw given raw).mapError _ = _
          rw [hdecoded]
          rfl
        rw [callPlugin_of_error hdata (by rw [hreceived]; rfl)]
        exact status_error_ends "writing" s (.daemon (Failure.ofReceive e))
    | @called _ given raw l hdata hset hlist hdecoded =>
        subst hset hlist
        have hreceived : receivedList (some given) (some raw) = .ok l := by
          show (ValueList.ofRaw given raw).mapError _ = _
          rw [hdecoded]
          rfl
        rw [callPlugin_of_ok hdata (by rw [hreceived]; rfl)]
        exact status_call_ends "writing" s _

/-- Flushing decodes an identifier if there is one. A timeout always has a meaning. -/
theorem flush_answers (data : Option PluginId) (timeout : Ticks)
    (identifier : Option (List UInt8)) (s : Session abi σ) :
    Answers "flush" s (FlushCourse s data timeout identifier)
      (s.flush data timeout identifier) := by
  -- As for writing, with the identifier in place of the list: it may be missing, but not illegible.
  refine Answers.of_ends ?_ fun c hc => ?_
  · cases hdata : s.pluginOf data with
    | none => exact ⟨_, .noData hdata⟩
    | some p =>
        cases identifier with
        | none => exact ⟨_, .unnamed hdata rfl⟩
        | some bytes =>
            cases hdecoded : Utf8.decode (Terminated.bytes bytes) with
            | error fault => exact ⟨_, .illegible hdata rfl hdecoded⟩
            | ok id => exact ⟨_, .named hdata rfl hdecoded⟩
  · unfold flush
    cases hc with
    | noData hdata =>
        rw [callPlugin_of_none hdata]
        exact status_error_ends "flush" s noData
    | @illegible _ bytes fault hdata hidentifier hdecoded =>
        subst hidentifier
        have hread : flushIdentifier (some bytes)
            = .error (.illegibleText "flush identifier" fault) := by
          unfold flushIdentifier
          dsimp only
          rw [hdecoded]
        rw [callPlugin_of_error hdata (by rw [hread]; rfl)]
        exact status_error_ends "flush" s (.illegibleText "flush identifier" fault)
    | unnamed hdata hidentifier =>
        subst hidentifier
        rw [callPlugin_of_ok hdata rfl]
        exact status_call_ends "flush" s _
    | @named _ bytes id hdata hidentifier hdecoded =>
        subst hidentifier
        have hread : flushIdentifier (some bytes) = .ok (nonEmptyText id) := by
          unfold flushIdentifier
          dsimp only
          rw [hdecoded]
        rw [callPlugin_of_ok hdata (by rw [hread]; rfl)]
        exact status_call_ends "flush" s _

/-- The end of a manager is run whenever it is asked for. -/
theorem shutdown_answers (m : Manager abi σ) (s : Session abi σ) :
    Answers "shutdown" s (· = .called m.shutdown) (s.shutdown m) := by
  refine Answers.of_ends ⟨_, rfl⟩ fun c hc => ?_
  subst hc
  exact status_call_ends "shutdown" s m.shutdown

/-- A line for a plugin has no status. Without a line or without a plugin nothing happens at all;
with both, the call ends by its course, and what it would answer shows in the log only. -/
structure LogAnswers (data : Option PluginId) (severity : Int) (message : Option (List UInt8))
    (s : Session abi σ) : Prop where
  silent : message = none ∨ s.pluginOf data = none → s.log data severity message = s
  course : ∀ p line, message = some line → s.pluginOf data = some p →
    ∃ c, LogCourse p severity line c
  ends : ∀ p line c, message = some line → s.pluginOf data = some p → LogCourse p severity line c →
    ∃ code, Ends "logging" s c code (s.log data severity message)

/-- Without a line or without a plugin a log callback does nothing, and does not look at the
level. -/
theorem log_of_none {data : Option PluginId} {message : Option (List UInt8)} {s : Session abi σ}
    (h : message = none ∨ s.pluginOf data = none) (severity : Int) :
    s.log data severity message = s := by
  unfold log
  rcases h with rfl | hdata
  · rfl
  · rw [hdata]
    cases message <;> rfl

/-- A log callback with both is like a call with a status that nobody reads. -/
theorem log_answers (data : Option PluginId) (severity : Int) (message : Option (List UInt8))
    (s : Session abi σ) : LogAnswers data severity message s where
  silent h := log_of_none h severity
  course p line _ _ := by
    cases hlevel : Log.Severity.ofCode? severity with
    | none => exact ⟨_, .unknown hlevel⟩
    | some known => exact ⟨_, .called hlevel⟩
  ends p line c hmessage hdata hc := by
    subst hmessage
    unfold log
    rw [hdata]
    dsimp only
    cases hc with
    | unknown hlevel =>
        rw [hlevel]
        exact ⟨-1, .refused fun h => report_of_unsubscribed h "logging" _⟩
    | @called known hlevel =>
        rw [hlevel]
        dsimp only
        obtain ⟨code, -, hend⟩ := status_call_ends "logging" s
          (p.log known (Utf8.decodeLossy (Terminated.bytes line)))
        -- apart from the status, this is how the other calls run a method
        rcases hcall : s.call (p.log known (Utf8.decodeLossy (Terminated.bytes line)))
          with ⟨_ | _, t⟩ <;> rw [hcall] at hend
        · exact ⟨code, hend⟩
        · exact ⟨code, hend⟩

/-- Whatever the daemon passes and whatever the plugin's code does: a call answers zero exactly if
the method was called and returned, and minus one otherwise; and with nobody to take messages, each
failure adds one line to what the method and the report of a panic have left, with the error and
everything behind it. A call that is refused reaches no method: the session stays as it is but for
that line. -/
theorem calls_end_by_course (m : Manager abi σ) (s : Session abi σ) :
    (∀ data, Answers "read" s (ReadCourse s data) (s.read data)) ∧
    (∀ data set list,
      Answers "writing" s (WriteCourse s data set list) (s.write data set list)) ∧
    (∀ data timeout identifier, Answers "flush" s (FlushCourse s data timeout identifier)
      (s.flush data timeout identifier)) ∧
    Answers "shutdown" s (· = .called m.shutdown) (s.shutdown m) ∧
    ∀ data severity message, LogAnswers data severity message s :=
  ⟨fun data => read_answers data s, fun data set list => write_answers data set list s,
    fun data timeout identifier => flush_answers data timeout identifier s, shutdown_answers m s,
    fun data severity message => log_answers data severity message s⟩

/-- A manager of one plugin that only wants the daemon's log. -/
def listener : Manager .current Scripted.Journal :=
  Scripted.ManagerScript.manager
    { name := "listener", wantsStart := false, first := .succeed, calls := none
      set := .single (.acting ⟨false, true, false, false⟩ .succeed .succeed .succeed .succeed) }

/-- A line of an unknown level that comes without the plugin's data leaves no trace, although
nobody else takes messages and the level is unknown: not every unknown level is reported. -/
theorem log_without_data_is_silent :
    let s := run listener (within ⟨.initial, .initial, .empty⟩) [.init]
    s.registry.registrations = [⟨"listener", .log, some 0, true⟩] ∧ s.Unsubscribed ∧
    Log.Severity.ofCode? 42 = none ∧
    (s.log none 42 (some [120])).world.daemon.log = s.world.daemon.log ∧
    s.log none 42 (some [120]) ≠ s.logged "logging" ["unknown severity: 42"] := by
  intro s
  refine ⟨rfl, rfl, rfl, rfl, fun h => ?_⟩
  have hlog := congrArg (fun t : Session .current Scripted.Journal => t.world.daemon.log.length) h
  exact absurd hlog (by decide)

end Session

end PluginKit
