import Quire.Cli.Session
import Quire.Proofs.Disk

set_option autoImplicit false

/-!
What a run of the command reads, and what it leaves behind.

The settings come from at most one file, the first one that is found where settings are looked for;
no other file has a part in the outcome. A run that fails before it has a page to deliver leaves
everything as it was, and one that succeeds changes what it was told to write and nothing else.
-/

namespace Quire

inductive Page.WrittenAs (codec : Cli.Codec) (settings : Settings) (page : Page) :
    Cli.Format → String → Prop where
  | html {text} :
      (page.html settings (fun _ => .fragment) ∅).value = .ok text →
      WrittenAs codec settings page .html text
  | toc : WrittenAs codec settings page .toc page.outline
  | metadata {text} :
      codec.writeMetadata page.metadata = .ok text →
      WrittenAs codec settings page .metadata text

namespace Cli

/-- Where settings are looked for: at the explicit path and nowhere else, or in the working
directory and then where the platform keeps them. -/
def searched (explicit platform : Option String) : List String :=
  match explicit with
  | some path => [path]
  | none => "folio/config.toml" :: platform.toList

def Disk.selected? (disk : Disk) (paths : List String) : Option String :=
  paths.find? disk.present

inductive Loads (disk : Disk) (codec : Codec) (explicit platform : Option String) :
    Except Failure Settings → Prop where
  | missing {path} :
      explicit = some path → disk.present path = false →
      Loads disk codec explicit platform
        (.error (.config ("Missing configuration file: " ++ path)))
  | nowhere :
      explicit = none → disk.selected? (searched explicit platform) = none →
      Loads disk codec explicit platform (.ok .default)
  | unreadable {path error} :
      disk.selected? (searched explicit platform) = some path → disk.read path = .error error →
      Loads disk codec explicit platform (.error (.io error.message))
  | malformed {path content message} :
      disk.selected? (searched explicit platform) = some path → disk.read path = .ok content →
      codec.readSettings content = .error message →
      Loads disk codec explicit platform
        (.error (.config ("Failed to parse TOML configuration: " ++ message)))
  | invalid {path content settings fault} :
      disk.selected? (searched explicit platform) = some path → disk.read path = .ok content →
      codec.readSettings content = .ok settings → settings.fault? = some fault →
      Loads disk codec explicit platform (.error (.config ("Validation error: " ++ fault.message)))
  | valid {path content settings} :
      disk.selected? (searched explicit platform) = some path → disk.read path = .ok content →
      codec.readSettings content = .ok settings → settings.fault? = none →
      Loads disk codec explicit platform (.ok settings)

namespace Session

/-- No file and no standard output is changed; the log may be longer. -/
structure Unchanged (before after : Session) : Prop where
  disk : after.disk = before.disk
  printed : after.printed = before.printed
  closed : after.closed = before.closed

/-- The output path, or standard output where none is given, receives a text, and nothing else
changes. -/
def Delivers (before after : Session) (text : String) : Option String → Prop
  | none => after.disk = before.disk ∧ after.printed = before.printed ++ text
  | some path => before.disk.Receives after.disk path text ∧ after.printed = before.printed

def Accepts (session : Session) : Option String → Prop
  | none => session.closed = none
  | some path => session.disk.Accepts path

namespace Unchanged

variable {before middle after : Session}

theorem refl (session : Session) : Unchanged session session :=
  ⟨rfl, rfl, rfl⟩

theorem trans (first : Unchanged before middle) (second : Unchanged middle after) :
    Unchanged before after :=
  ⟨second.disk.trans first.disk, second.printed.trans first.printed,
    second.closed.trans first.closed⟩

end Unchanged

private theorem unchanged_log (session : Session) (event : Event) : Unchanged session (session.log event) :=
  ⟨rfl, rfl, rfl⟩

end Session

open Session (Unchanged)

section Loading

variable {codec : Codec} {disk other : Disk} {session : Session} {explicit platform : Option String}
  {path : String} {places : List (Origin × String)}

private theorem candidates_paths (explicit platform : Option String) :
    (candidates explicit platform).map Prod.snd = searched explicit platform := by
  cases explicit with
  | some path => rfl
  | none => cases platform <;> rfl

private theorem loadSettings_cons (origin : Origin) :
    (loadSettings Session.machine codec ((origin, path) :: places)).run session =
      if session.disk.present path then
        (codec.load (session.disk.read path), session.log (.loadingConfiguration origin path))
      else if origin = .explicit then
        (.error (.config ("Missing configuration file: " ++ path)), session)
      else
        (loadSettings Session.machine codec places).run
          (session.log (.configurationNotFound origin path)) := by
  cases present : session.disk.present path with
  | true =>
      simp [loadSettings, Session.machine, present]
      rfl
  | false =>
      by_cases explicit : origin = .explicit
      · simp [loadSettings, Session.machine, present, explicit]
        rfl
      · simp [loadSettings, Session.machine, present, explicit]

private theorem unchanged_loadSettings :
    Unchanged session ((loadSettings Session.machine codec places).run session).2 := by
  induction places generalizing session with
  | nil => exact session.unchanged_log _
  | cons place later ih =>
      rw [loadSettings_cons]
      split
      · exact session.unchanged_log _
      · split
        · exact .refl session
        · exact (session.unchanged_log _).trans ih

private theorem loadSettings_of_selected?
    (present : ∀ place ∈ places, place.1 = .explicit → session.disk.present place.2 = true)
    (selected : session.disk.selected? (places.map Prod.snd) = some path) :
    ((loadSettings Session.machine codec places).run session).1 =
      codec.load (session.disk.read path) := by
  induction places generalizing session with
  | nil => cases selected
  | cons place later ih =>
      obtain ⟨origin, first⟩ := place
      obtain ⟨here, further⟩ := List.forall_mem_cons.mp present
      rw [loadSettings_cons]
      cases found : session.disk.present first with
      | true =>
          obtain rfl : first = path := by simpa [Disk.selected?, found] using selected
          rfl
      | false =>
          have ordinary : origin ≠ .explicit := by
            intro explicit
            simpa [found] using here explicit
          have passed : session.disk.selected? (later.map Prod.snd) = some path := by
            simpa [Disk.selected?, found] using selected
          rw [if_neg Bool.false_ne_true, if_neg ordinary]
          exact ih further passed

private theorem loadSettings_of_unselected
    (unselected : session.disk.selected? (searched explicit platform) = none) :
    ((loadSettings Session.machine codec (candidates explicit platform)).run session).1 =
      explicit.elim (.ok .default) fun path =>
        .error (.config ("Missing configuration file: " ++ path)) := by
  have absent : ∀ path ∈ searched explicit platform, session.disk.present path = false := by
    simpa [Disk.selected?] using unselected
  cases explicit with
  | some path =>
      rw [candidates, loadSettings_cons, absent path (by simp [searched])]
      rfl
  | none =>
      rw [candidates, loadSettings_cons, absent _ (by simp [searched])]
      cases platform with
      | none => rfl
      | some path =>
          rw [Option.toList_some, List.map_singleton, if_neg Bool.false_ne_true,
            if_neg (by decide), loadSettings_cons, Session.disk_log, absent path (by simp [searched])]
          rfl

private theorem loadSettings_candidates (selected : session.disk.selected? (searched explicit platform) =
      some path) :
    ((loadSettings Session.machine codec (candidates explicit platform)).run session).1 =
      codec.load (session.disk.read path) := by
  apply loadSettings_of_selected?
  · cases explicit with
    | some given =>
        obtain rfl : path = given := by
          simpa [searched] using List.mem_of_find?_eq_some selected
        have present : session.disk.present path = true := List.find?_some selected
        simpa [candidates] using present
    | none => cases platform <;> simp [candidates]
  · rw [candidates_paths]
    exact selected

private theorem loads_iff {result : Except Failure Settings} :
    Loads session.disk codec explicit platform result ↔
      ((loadSettings Session.machine codec (candidates explicit platform)).run session).1 =
        result := by
  constructor
  · intro loads
    cases loads with
    | missing given absent =>
        subst given
        exact loadSettings_of_unselected (by simp [Disk.selected?, searched, absent])
    | nowhere unspecified unselected =>
        subst unspecified
        exact loadSettings_of_unselected unselected
    | unreadable selected failed => rw [loadSettings_candidates selected, failed, Codec.load]
    | malformed selected read unparsed =>
        rw [loadSettings_candidates selected, read]
        simp only [Codec.load, unparsed]
    | invalid selected read parsed faulty =>
        rw [loadSettings_candidates selected, read]
        simp only [Codec.load, parsed, faulty]
    | valid selected read parsed faultless =>
        rw [loadSettings_candidates selected, read]
        simp only [Codec.load, parsed, faultless]
  · intro loaded
    subst loaded
    cases selected : session.disk.selected? (searched explicit platform) with
    | none =>
        rw [loadSettings_of_unselected selected]
        cases explicit with
        | none => exact .nowhere rfl selected
        | some path => exact .missing rfl (by simpa [Disk.selected?, searched] using selected)
    | some path =>
        rw [loadSettings_candidates selected]
        cases read : session.disk.read path with
        | error error => exact .unreadable selected read
        | ok content =>
            cases parsed : codec.readSettings content with
            | error message =>
                simp only [Codec.load, parsed]
                exact .malformed selected read parsed
            | ok settings =>
                cases checked : settings.fault? with
                | some fault =>
                    simp only [Codec.load, parsed, checked]
                    exact .invalid selected read parsed checked
                | none =>
                    simp only [Codec.load, parsed, checked]
                    exact .valid selected read parsed checked

private theorem loadSettings_congr {other : Session}
    (same : other.disk.selected? (searched explicit platform) =
      session.disk.selected? (searched explicit platform))
    (agree : ∀ path, session.disk.selected? (searched explicit platform) = some path →
      other.disk.read path = session.disk.read path) :
    ((loadSettings Session.machine codec (candidates explicit platform)).run other).1 =
      ((loadSettings Session.machine codec (candidates explicit platform)).run session).1 := by
  cases selected : session.disk.selected? (searched explicit platform) with
  | none =>
      rw [selected] at same
      rw [loadSettings_of_unselected selected, loadSettings_of_unselected same]
  | some path =>
      rw [selected] at same
      rw [loadSettings_candidates selected, loadSettings_candidates same, agree path selected]

end Loading

section Running

variable {codec : Codec} {session other : Session} {platform : Option String}
  {arguments : Arguments} {text : String}

private theorem mapError_eq_ok_iff {α ε ε' : Type} {result : Except ε α} {wrap : ε → ε'}
    {value : α} : result.mapError wrap = .ok value ↔ result = .ok value := by
  cases result with
  | error error => exact ⟨fun same => (by cases same), fun same => (by cases same)⟩
  | ok reached => exact ⟨fun same => (by cases same; rfl), fun same => (by cases same; rfl)⟩

private theorem writePage_eq_ok_iff {settings : Settings} {format : Format} {page : Page} :
    (writePage codec settings format page).value = .ok text ↔
      page.WrittenAs codec settings format text := by
  constructor
  · intro produced
    cases format with
    | html =>
        exact .html (mapError_eq_ok_iff.mp produced)
    | toc =>
        cases produced
        exact .toc
    | metadata =>
        exact .metadata (mapError_eq_ok_iff.mp produced)
  · intro written
    cases written with
    | html made => exact mapError_eq_ok_iff.mpr made
    | toc => rfl
    | metadata made => exact mapError_eq_ok_iff.mpr made

private theorem produce_eq_ok_iff {settings : Settings} :
    (arguments.produce codec settings).value = .ok text ↔
      ∃ page, Page.find? arguments.page = some page ∧
        page.WrittenAs codec (arguments.adjust settings) arguments.format text := by
  cases found : Page.find? arguments.page with
  | none => simp [Arguments.produce, found]
  | some page => simp [Arguments.produce, found, writePage_eq_ok_iff]

private theorem unchanged_forM_log (events : List Event) (session : Session) :
    Unchanged session ((events.forM Session.machine.log).run session).2 := by
  induction events generalizing session with
  | nil => exact .refl session
  | cons event events ih => exact (session.unchanged_log event).trans (ih _)

private def begun (platform : Option String) (arguments : Arguments) (session : Session) : Session :=
  let started := session.log (.processingPage arguments.page arguments.format.label)
  if arguments.config.isNone && platform.isNone then started.log .noPlatformDirectory else started

private theorem prepare_run :
    (prepare Session.machine codec platform arguments).run session =
      let loaded := (loadSettings Session.machine codec (candidates arguments.config platform)).run
        (begun platform arguments session)
      match loaded.1 with
      | .error failure => (.error failure, loaded.2)
      | .ok settings =>
          ((arguments.produce codec settings).value,
            (((arguments.produce codec settings).events.forM Session.machine.log).run
              loaded.2).2) := by
  have unfolded : (prepare Session.machine codec platform arguments).run session =
      let loaded := (loadSettings Session.machine codec (candidates arguments.config platform)).run
        (begun platform arguments session)
      StateT.run (m := Id) (match loaded.1 with
        | .error failure => pure (.error failure)
        | .ok settings => do
            (arguments.produce codec settings).events.forM Session.machine.log
            return (arguments.produce codec settings).value) loaded.2 := by
    unfold prepare begun
    cases arguments.config.isNone && platform.isNone <;> rfl
  rw [unfolded]
  dsimp only
  split <;> rfl

private theorem unchanged_begun : Unchanged session (begun platform arguments session) := by
  unfold begun
  dsimp only
  split
  · exact (session.unchanged_log _).trans (Session.unchanged_log _ _)
  · exact session.unchanged_log _

private theorem unchanged_prepare :
    Unchanged session ((prepare Session.machine codec platform arguments).run session).2 := by
  have loaded : Unchanged session
      ((loadSettings Session.machine codec (candidates arguments.config platform)).run
        (begun platform arguments session)).2 := unchanged_begun.trans unchanged_loadSettings
  rw [prepare_run]
  dsimp only
  split
  · exact loaded
  · exact loaded.trans (unchanged_forM_log _ _)

private theorem prepare_result :
    ((prepare Session.machine codec platform arguments).run session).1 =
      ((loadSettings Session.machine codec (candidates arguments.config platform)).run
        session).1.bind fun settings => (arguments.produce codec settings).value := by
  have disk : (begun platform arguments session).disk = session.disk := unchanged_begun.disk
  have same : ((loadSettings Session.machine codec (candidates arguments.config platform)).run
      (begun platform arguments session)).1 =
      ((loadSettings Session.machine codec (candidates arguments.config platform)).run
        session).1 := loadSettings_congr (by rw [disk]) (by simp [disk])
  rw [prepare_run]
  dsimp only
  rw [← same]
  split
  next failed =>
    rw [failed]
    rfl
  next loaded =>
    rw [loaded]
    rfl

private theorem prepare_eq_ok_iff :
    ((prepare Session.machine codec platform arguments).run session).1 = .ok text ↔
      ∃ settings page, Loads session.disk codec arguments.config platform (.ok settings) ∧
        Page.find? arguments.page = some page ∧
        page.WrittenAs codec (arguments.adjust settings) arguments.format text := by
  rw [prepare_result]
  constructor
  · intro prepared
    cases loaded : ((loadSettings Session.machine codec
        (candidates arguments.config platform)).run session).1 with
    | error failure =>
        rw [loaded] at prepared
        cases prepared
    | ok settings =>
        rw [loaded] at prepared
        obtain ⟨page, found, written⟩ := produce_eq_ok_iff.mp prepared
        exact ⟨settings, page, loads_iff.mpr loaded, found, written⟩
  · intro ready
    obtain ⟨settings, page, loads, found, written⟩ := ready
    rw [loads_iff.mp loads]
    exact produce_eq_ok_iff.mpr ⟨page, found, written⟩

private theorem run_eq :
    session.run codec platform arguments =
      let prepared := (prepare Session.machine codec platform arguments).run session
      match prepared.1 with
      | .error failure => (.error failure, prepared.2)
      | .ok text => (handOver Session.machine arguments.output text).run prepared.2 := by
  have unfolded : session.run codec platform arguments =
      let prepared := (prepare Session.machine codec platform arguments).run session
      StateT.run (m := Id) (match prepared.1 with
        | .error failure => pure (.error failure)
        | .ok text => handOver Session.machine arguments.output text) prepared.2 := rfl
  rw [unfolded]
  dsimp only
  split <;> rfl

private theorem run_of_prepare_error {failure : Failure}
    (failed : ((prepare Session.machine codec platform arguments).run session).1 =
      .error failure) :
    (session.run codec platform arguments).1 = .error failure ∧
      Unchanged session (session.run codec platform arguments).2 := by
  rw [run_eq]
  simp only [failed, true_and]
  exact unchanged_prepare

private theorem handOver_none :
    (handOver Session.machine none text).run session =
      ((session.print text).1.mapError fun error => .io error.message, (session.print text).2) :=
  rfl

private theorem handOver_some {path : String} :
    (handOver Session.machine (some path) text).run session =
      match session.disk.write path text with
      | .error error => (.error (.io error.message), session)
      | .ok written => (.ok (), { session with disk := written }.log (.pageExported path)) := by
  cases wrote : session.disk.write path text <;>
    · simp [handOver, Session.machine, Session.write, wrote]
      rfl

private theorem handOver_of_accepts {output : Option String} (accepts : session.Accepts output) :
    ((handOver Session.machine output text).run session).1 = .ok () ∧
      session.Delivers ((handOver Session.machine output text).run session).2 text output := by
  cases output with
  | none =>
      have closed : session.closed = none := accepts
      rw [handOver_none, Session.print, closed]
      exact ⟨rfl, rfl, rfl⟩
  | some path =>
      obtain ⟨written, wrote⟩ := Disk.accepts_iff.mp accepts
      rw [handOver_some, wrote]
      exact ⟨rfl, Disk.receives_of_write wrote, rfl⟩

private theorem handOver_of_not_accepts {output : Option String} (refuses : ¬ session.Accepts output) :
    ∃ cause, ((handOver Session.machine output text).run session).1 = .error (.io cause) := by
  cases output with
  | none =>
      obtain ⟨error, closed⟩ := Option.ne_none_iff_exists'.mp refuses
      refine ⟨error.message, ?_⟩
      rw [handOver_none, Session.print, closed]
      rfl
  | some path =>
      cases wrote : session.disk.write path text with
      | ok written => exact absurd (Disk.accepts_iff.mpr ⟨written, wrote⟩) refuses
      | error error => exact ⟨error.message, by rw [handOver_some, wrote]⟩

theorem Session.Unchanged.accepts_iff {output : Option String} (unchanged : Unchanged session other) :
    other.Accepts output ↔ session.Accepts output := by
  cases output with
  | none => rw [Session.Accepts, Session.Accepts, unchanged.closed]
  | some path => rw [Session.Accepts, Session.Accepts, unchanged.disk]

private theorem Session.Unchanged.delivers {after : Session} {output : Option String}
    (unchanged : Unchanged session other) (delivers : other.Delivers after text output) :
    session.Delivers after text output := by
  cases output with
  | none => exact ⟨delivers.1.trans unchanged.disk, by rw [delivers.2, unchanged.printed]⟩
  | some path =>
      refine ⟨?_, delivers.2.trans unchanged.printed⟩
      rw [← unchanged.disk]
      exact delivers.1

private theorem Session.Unchanged.printed_append (unchanged : Unchanged session other) :
    other.printed = session.printed ++ "" := by
  rw [unchanged.printed, String.append_empty]

private theorem run_of_accepts
    (prepared : ((prepare Session.machine codec platform arguments).run session).1 = .ok text)
    (accepts : session.Accepts arguments.output) :
    (session.run codec platform arguments).1 = .ok () ∧
      session.Delivers (session.run codec platform arguments).2 text arguments.output := by
  have unchanged : Unchanged session
      ((prepare Session.machine codec platform arguments).run session).2 := unchanged_prepare
  rw [run_eq]
  simp only [prepared]
  obtain ⟨succeeded, delivered⟩ := handOver_of_accepts (unchanged.accepts_iff.mpr accepts)
  exact ⟨succeeded, unchanged.delivers delivered⟩

private theorem run_of_not_accepts
    (prepared : ((prepare Session.machine codec platform arguments).run session).1 = .ok text)
    (refuses : ¬ session.Accepts arguments.output) :
    ∃ cause, (session.run codec platform arguments).1 = .error (.io cause) := by
  rw [run_eq]
  simp only [prepared]
  exact handOver_of_not_accepts (mt unchanged_prepare.accepts_iff.mp refuses)

private theorem run_of_closed {error : DiskError} (plain : arguments.output = none)
    (prepared : ((prepare Session.machine codec platform arguments).run session).1 = .ok text)
    (closed : session.closed = some error) :
    (session.run codec platform arguments).1 = .error (.io error.message) ∧
      Unchanged session (session.run codec platform arguments).2 := by
  have unchanged : Unchanged session
      ((prepare Session.machine codec platform arguments).run session).2 := unchanged_prepare
  rw [run_eq]
  simp only [prepared, plain]
  rw [handOver_none, Session.print, unchanged.closed, closed]
  exact ⟨rfl, unchanged⟩

private theorem run_printing_congr (plain : arguments.output = none)
    (same : ((prepare Session.machine codec platform arguments).run other).1 =
      ((prepare Session.machine codec platform arguments).run session).1)
    (closed : other.closed = session.closed) :
    (other.run codec platform arguments).1 = (session.run codec platform arguments).1 ∧
      ∃ text, (other.run codec platform arguments).2.printed = other.printed ++ text ∧
        (session.run codec platform arguments).2.printed = session.printed ++ text := by
  cases prepared : ((prepare Session.machine codec platform arguments).run session).1 with
  | error failure =>
      obtain ⟨failed, kept⟩ := run_of_prepare_error prepared
      obtain ⟨failed', kept'⟩ := run_of_prepare_error (same.trans prepared)
      exact ⟨failed'.trans failed.symm, "", kept'.printed_append, kept.printed_append⟩
  | ok text =>
      cases standing : session.closed with
      | none =>
          have accepts : session.Accepts arguments.output := by rw [plain]; exact standing
          have accepts' : other.Accepts arguments.output := by rw [plain]; exact closed.trans standing
          obtain ⟨succeeded, delivered⟩ := run_of_accepts prepared accepts
          obtain ⟨succeeded', delivered'⟩ := run_of_accepts (same.trans prepared) accepts'
          rw [plain] at delivered delivered'
          exact ⟨succeeded'.trans succeeded.symm, text, delivered'.2, delivered.2⟩
      | some error =>
          obtain ⟨failed, kept⟩ := run_of_closed plain prepared standing
          obtain ⟨failed', kept'⟩ :=
            run_of_closed plain (same.trans prepared) (closed.trans standing)
          exact ⟨failed'.trans failed.symm, "", kept'.printed_append, kept.printed_append⟩

/-- A run that fails leaves nothing behind, and only the file that decides the settings matters.

A run that fails for another reason than input and output changes no file and prints nothing. A run
succeeds exactly if the settings load, the page is known, it can be written in the format asked for,
and the disk or standard output takes it; then the page is what the output path receives, or standard
output, written with line breaks if the settings or the command line ask for them, and nothing else
changes. The settings are loaded by the rules, so that a file that cannot be used is not passed over
for a later one, and nothing but the file that is found first has a part in what a run delivers, nor
in how a run to standard output ends. -/
theorem run_delivers_or_changes_nothing (codec : Codec) (session : Session)
    (platform : Option String) (arguments : Arguments) :
    (∀ failure, (session.run codec platform arguments).1 = .error failure →
      (∀ cause, failure ≠ .io cause) →
      Unchanged session (session.run codec platform arguments).2) ∧
    (∀ settings page text,
      Loads session.disk codec arguments.config platform (.ok settings) →
      Page.find? arguments.page = some page →
      page.WrittenAs codec
        { settings with
          output := ⟨settings.output.pretty || arguments.pretty, settings.output.doctype⟩ }
        arguments.format text →
      session.Accepts arguments.output →
      (session.run codec platform arguments).1 = .ok () ∧
        session.Delivers (session.run codec platform arguments).2 text arguments.output) ∧
    ((session.run codec platform arguments).1 = .ok () →
      ∃ settings page text, Loads session.disk codec arguments.config platform (.ok settings) ∧
        Page.find? arguments.page = some page ∧
        page.WrittenAs codec
          { settings with
            output := ⟨settings.output.pretty || arguments.pretty, settings.output.doctype⟩ }
          arguments.format text ∧
        session.Accepts arguments.output) ∧
    (∀ failure, Loads session.disk codec arguments.config platform (.error failure) →
      (session.run codec platform arguments).1 = .error failure ∧
        Unchanged session (session.run codec platform arguments).2) ∧
    ∀ other : Session,
      other.disk.selected? (searched arguments.config platform) =
        session.disk.selected? (searched arguments.config platform) →
      (∀ path, session.disk.selected? (searched arguments.config platform) = some path →
        other.disk.read path = session.disk.read path) →
      (∀ loaded, Loads other.disk codec arguments.config platform loaded ↔
        Loads session.disk codec arguments.config platform loaded) ∧
      ((prepare Session.machine codec platform arguments).run other).1 =
        ((prepare Session.machine codec platform arguments).run session).1 ∧
      (arguments.output = none → other.closed = session.closed →
        (other.run codec platform arguments).1 = (session.run codec platform arguments).1 ∧
        ∃ text, (other.run codec platform arguments).2.printed = other.printed ++ text ∧
          (session.run codec platform arguments).2.printed = session.printed ++ text) := by
  refine ⟨?_, ?_, ?_, ?_, ?_⟩
  · intro failure failed notIo
    cases prepared : ((prepare Session.machine codec platform arguments).run session).1 with
    | error early => exact (run_of_prepare_error prepared).2
    | ok text =>
        by_cases accepts : session.Accepts arguments.output
        · rw [(run_of_accepts prepared accepts).1] at failed
          cases failed
        · obtain ⟨cause, refused⟩ := run_of_not_accepts prepared accepts
          rw [refused] at failed
          cases failed
          exact absurd rfl (notIo cause)
  · intro settings page text loads found written accepts
    exact run_of_accepts (prepare_eq_ok_iff.mpr ⟨settings, page, loads, found, written⟩) accepts
  · intro succeeded
    cases prepared : ((prepare Session.machine codec platform arguments).run session).1 with
    | error early =>
        rw [(run_of_prepare_error prepared).1] at succeeded
        cases succeeded
    | ok text =>
        obtain ⟨settings, page, loads, found, written⟩ := prepare_eq_ok_iff.mp prepared
        refine ⟨settings, page, text, loads, found, written, ?_⟩
        by_cases accepts : session.Accepts arguments.output
        · exact accepts
        · obtain ⟨cause, refused⟩ := run_of_not_accepts prepared accepts
          rw [refused] at succeeded
          cases succeeded
  · intro failure failed
    apply run_of_prepare_error
    rw [prepare_result, loads_iff.mp failed]
    rfl
  · intro other same agree
    have loaded :
        ((loadSettings Session.machine codec (candidates arguments.config platform)).run other).1 =
          ((loadSettings Session.machine codec (candidates arguments.config platform)).run
            session).1 := loadSettings_congr same agree
    have prepared : ((prepare Session.machine codec platform arguments).run other).1 =
        ((prepare Session.machine codec platform arguments).run session).1 := by
      rw [prepare_result, prepare_result, loaded]
    refine ⟨fun result => ?_, prepared, fun plain closed => ?_⟩
    · rw [loads_iff, loads_iff, loaded]
    · exact run_printing_congr plain prepared closed

/-- A machine with settings for all sites and an empty directory, seen from a site that may have a
configuration file of its own. -/
def Session.site (own : Option (List UInt8)) : Session :=
  .start (.ofEntries ["home", "site"]
    ((own.toList.map fun contents => (["home", "site", "folio", "config.toml"], .file contents)) ++
      [(["etc", "folio", "config.toml"], .file []), (["srv"], .directory)]))

def Arguments.prettily (page : String) (format : Format) (output config : Option String) :
    Arguments :=
  ⟨page, output, config, format, "warn", true⟩

theorem run_delivers_frontPage :
    (∃ text,
      (Page.GettingStarted.page.html { Settings.default with output := ⟨true, false⟩ }
        (fun _ => .fragment) ∅).value = .ok text ∧
      ((Session.site (some [])).run .toml none (.prettily "/" .html none none)).1 = .ok () ∧
      ((Session.site (some [])).run .toml none (.prettily "/" .html none none)).2.printed = text) ∧
    (((Session.site none).run .toml (some "/etc/folio/config.toml")
        (.prettily "/" .metadata (some "/srv/page") none)).1 = .ok () ∧
      ((Session.site none).run .toml (some "/etc/folio/config.toml")
        (.prettily "/" .metadata (some "/srv/page") none)).2.disk.read "/srv/page" =
          .ok Page.GettingStarted.metadata.toToml) ∧
    (((Session.site none).run .toml none
        (.prettily "/" .toc (some "../page") (some "../../etc/folio/config.toml"))).1 = .ok () ∧
      ((Session.site none).run .toml none
        (.prettily "/" .toc (some "../page") (some "../../etc/folio/config.toml"))).2.disk.read
          "../page" = .ok Page.GettingStarted.page.outline) ∧
    ((Session.site (some [61])).run .toml (some "/etc/folio/config.toml")
        (.prettily "/" .toc none none)).1 =
      .error (.config ("Failed to parse TOML configuration: " ++ "")) ∧
    (((Session.site (some [])).run .toml none (.prettily "?" .toc none none)).1 =
        .error (.unknownPage "?") ∧
      Unchanged (.site (some []))
        ((Session.site (some [])).run .toml none (.prettily "?" .toc none none)).2) ∧
    ∀ message, ((Session.site (some [])).run { Codec.toml with writeMetadata _ := .error message } none
          (.prettily "/" .metadata none none)).1 = .error (.delivery message) ∧
      Unchanged (.site (some []))
        ((Session.site (some [])).run { Codec.toml with writeMetadata _ := .error message } none
          (.prettily "/" .metadata none none)).2 := by
  have found : Page.find? "/" = some Page.GettingStarted.page := rfl
  refine ⟨?_, ?_, ?_, ?_, ?_, ?_⟩
  · obtain ⟨text, made⟩ : ∃ text,
        (Page.GettingStarted.page.html { Settings.default with output := ⟨true, false⟩ }
          (fun _ => .fragment) ∅).value = .ok text := ⟨_, rfl⟩
    have loads : Loads (Session.site (some [])).disk .toml none none (.ok .default) := by
      have selected : (Session.site (some [])).disk.selected? (searched none none) =
          some "folio/config.toml" := rfl
      exact .valid selected rfl rfl rfl
    obtain ⟨-, delivers, -⟩ := run_delivers_or_changes_nothing .toml (.site (some [])) none
      (.prettily "/" .html none none)
    obtain ⟨succeeded, -, printed⟩ := delivers _ _ _ loads found (.html made) rfl
    exact ⟨text, made, succeeded, printed.trans String.empty_append⟩
  · have loads : Loads (Session.site none).disk .toml none (some "/etc/folio/config.toml")
        (.ok .default) := by
      have selected : (Session.site none).disk.selected?
          (searched none (some "/etc/folio/config.toml")) = some "/etc/folio/config.toml" := rfl
      exact .valid selected rfl rfl rfl
    obtain ⟨-, delivers, -⟩ := run_delivers_or_changes_nothing .toml (.site none)
      (some "/etc/folio/config.toml") (.prettily "/" .metadata (some "/srv/page") none)
    obtain ⟨succeeded, ⟨place, -, read, -⟩, -⟩ :=
      delivers _ _ _ loads found (.metadata rfl) ⟨["srv", "page"], rfl, nofun, rfl⟩
    exact ⟨succeeded, read⟩
  · have loads : Loads (Session.site none).disk .toml (some "../../etc/folio/config.toml") none
        (.ok .default) := by
      have selected : (Session.site none).disk.selected?
          (searched (some "../../etc/folio/config.toml") none) =
            some "../../etc/folio/config.toml" := rfl
      exact .valid selected rfl rfl rfl
    obtain ⟨-, delivers, -⟩ := run_delivers_or_changes_nothing .toml (.site none) none
      (.prettily "/" .toc (some "../page") (some "../../etc/folio/config.toml"))
    obtain ⟨succeeded, ⟨place, -, read, -⟩, -⟩ :=
      delivers _ _ _ loads found .toc ⟨["home", "page"], rfl, nofun, rfl⟩
    exact ⟨succeeded, read⟩
  · have selected : (Session.site (some [61])).disk.selected?
        (searched none (some "/etc/folio/config.toml")) = some "folio/config.toml" := rfl
    obtain ⟨-, -, -, fails, -⟩ := run_delivers_or_changes_nothing .toml (.site (some [61]))
      (some "/etc/folio/config.toml") (.prettily "/" .toc none none)
    exact (fails _ (.malformed selected rfl rfl)).1
  · have failed : ((Session.site (some [])).run .toml none (.prettily "?" .toc none none)).1 =
        .error (.unknownPage "?") := rfl
    exact ⟨failed, (run_delivers_or_changes_nothing _ _ _ _).1 _ failed nofun⟩
  · intro message
    have failed : ((Session.site (some [])).run
        { Codec.toml with writeMetadata _ := .error message } none
        (.prettily "/" .metadata none none)).1 = .error (.delivery message) := rfl
    exact ⟨failed, (run_delivers_or_changes_nothing _ _ _ _).1 _ failed nofun⟩

end Running
end Cli
end Quire
