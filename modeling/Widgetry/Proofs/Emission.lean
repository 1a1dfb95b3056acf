import Widgetry.Command.Run
import Widgetry.Proofs.Files
import Widgetry.Proofs.Startup.Pages

/-!
# What the command leaves behind

If the arguments ask for a page, the command always ends, whatever the delays of its fetches are:
`run_leaves_page`. It succeeds exactly if the settings are loaded, the start succeeds and the page
has a place to go, and then the page stands there. If it fails after the settings were loaded, the
page of the failure that it reports takes the place of the page, and if that page cannot be written
either, the log says so. If the settings cannot be loaded, nothing is written:
`settings_fault_leaves_no_page`.
-/

namespace Widgetry

/-- A site has an answer, since no fetch of it hangs. -/
theorem Site.run_answers (surroundings : Surroundings) (loaded : Settings.Loaded) :
    ∃ g started, Site.run (Site.transport surroundings loaded) loaded.settings =
      (g, some started) := by
  let outcomes : Outcomes := surroundings.fetch (.ofAttempts loaded.settings.fetch.maxAttempts)
    loaded.baseDirectory
  rcases Plan.run_cases outcomes surroundings.delay Hooks.never_crash_nil Family.support
      (.core loaded.settings.maxDepth) (plan loaded.settings) with
    ⟨g, e, hrun, _⟩ | ⟨g, page, _, _, _, hrun, _⟩
  · exact ⟨g, .error e, hrun⟩
  · exact ⟨g, .ok page, hrun⟩

namespace Command

/-- The text of the page of a failure. -/
def errorText (e : Error) : String :=
  (Page.ofError e).html .empty

/-- The page of a failure has no handles. -/
theorem error_body_html (e : Error) (relocate relocate' : String → Option String) :
    (Page.ofError e).body.htmlWith relocate = (Page.ofError e).body.htmlWith relocate' := by
  simp only [Page.ofError, Node.tagged, Node.ofKind, Node.withChildren, Node.withText,
    Node.htmlWith, Node.htmlWithAll, Node.startTag, List.map_nil, List.nil_append]

/-- So no cache changes its text. -/
theorem page_text_error (cache : Cache) (e : Error) :
    pageText cache (.error e) = errorText e := by
  show (Page.ofError e).html cache = (Page.ofError e).html .empty
  unfold Page.html
  rw [error_body_html e cache.inline Cache.empty.inline]

/-- Every notice is a warning or an error. -/
theorem warn_le_level (notice : Notice) : Level.warn.rank ≤ notice.level.rank := by
  cases notice <;> simp [Notice.level, Level.rank]

/-- No verbosity hides warnings. -/
theorem lowest_le_warn (options : Options) : options.lowest.rank ≤ Level.warn.rank := by
  unfold Options.lowest
  split <;> simp [Level.rank]

/-- So the log shows every notice at every verbosity. -/
theorem shown_eq (options : Options) (log : List Notice) : options.shown log = log :=
  List.filter_eq_self.mpr fun notice _ =>
    decide_eq_true ((lowest_le_warn options).trans (warn_le_level notice))

/-! ## What is said of an outcome -/

/-- The settings are loaded, and the start has an answer. -/
structure Starts (request : String → Nat → Except FetchError Fetched) (delay : String → Nat)
    (fs : FileSystem) (options : Options) (loaded : Settings.Loaded) (g : Gui)
    (started : Except Error Page) : Prop where
  loads : load fs.readText options = .ok loaded
  answers : Site.run (Site.transport ⟨fs.read, request, delay⟩ loaded) loaded.settings =
    (g, some started)

/-- A page has a place to go: the standard output, or a file that can be written. -/
def CanEmit (options : Options) (fs : FileSystem) : Prop :=
  ∀ path, options.output = some path → fs.IsWritable path

/-- The command reports no failure, and a text is all that stands in the file that the options name,
or in the standard output if they name none. -/
def Emits (options : Options) (fs : FileSystem) (outcome : Outcome) (text : String) : Prop :=
  outcome.report = "" ∧
    match options.output with
    | none => outcome.output = text
    | some path => outcome.output = "" ∧ fs.readText path = .ok text

/-- The command fails, reports an error, and prints nothing. -/
structure Reports (outcome : Outcome) (e : Error) : Prop where
  code : outcome.code = 1
  output : outcome.output = ""
  report : outcome.report = "sss-guis: " ++ e.message ++ "\n"

/-- Why the command fails: the settings cannot be loaded, the start fails, or the page cannot be
written. -/
inductive Cause (request : String → Nat → Except FetchError Fetched) (delay : String → Nat)
    (fs : FileSystem) (options : Options) : Error → Prop where
  | settings (e) : load fs.readText options = .error e → Cause request delay fs options e
  | start (loaded g e) : Starts request delay fs options loaded g (.error e) →
      Cause request delay fs options e
  | output (loaded g page path fault) : Starts request delay fs options loaded g (.ok page) →
      options.output = some path →
      fs.write path (Text.Utf8.encode (page.html g.session.cache)) = .error fault →
      Cause request delay fs options (.output path fault.message)

/-- The log of the command is that of the start. Only if the page of a failed start cannot be
written, there is a warning after it. -/
structure Logs (fs : FileSystem) (options : Options) (started : Except Error Page)
    (before after : List Notice) : Prop where
  quiet : (∃ page, started = .ok page) ∨ CanEmit options fs → after = before
  warned : ∀ e path fault, started = .error e → options.output = some path →
    fs.write path (Text.Utf8.encode (errorText e)) = .error fault →
    after = before ++ [.pageUnwritten (Error.output path fault.message).message]

theorem reports_of_error (log : List Notice) (e : Error) : Reports (.ofError log e) e :=
  ⟨rfl, rfl, rfl⟩

/-! ## Writing the page -/

variable {request : String → Nat → Except FetchError Fetched} {delay : String → Nat}
  {fs fs' : FileSystem} {options : Options} {loaded : Settings.Loaded} {g : Gui} {page : Page}
  {text : String} {session : Session} {started : Except Error Page}

/-- A text is written to the file that the options name, if they name one. -/
inductive Writes (options : Options) (fs : FileSystem) (text : String) :
    FileSystem → Except FileFault Unit → Prop where
  | skipped : options.output = none → Writes options fs text fs (.ok ())
  | done (path fs') : options.output = some path →
      fs.write path (Text.Utf8.encode text) = .ok fs' → Writes options fs text fs' (.ok ())
  | failed (path fault) : options.output = some path →
      fs.write path (Text.Utf8.encode text) = .error fault →
      Writes options fs text fs (.error fault)

/-- How building a page goes: the settings cannot be loaded, or the start has an answer, whose page
is written. -/
theorem build_cases (request : String → Nat → Except FetchError Fetched) (delay : String → Nat)
    (fs : FileSystem) (options : Options) :
    (∃ e, load fs.readText options = .error e ∧
      build request delay fs options = (fs, some (.ofError [] e))) ∨
    ∃ loaded g started fs' written, Starts request delay fs options loaded g started ∧
      Writes options fs (pageText g.session.cache started) fs' written ∧
      build request delay fs options =
        (fs', some (conclude options g.session started written)) := by
  unfold build
  cases hload : load fs.readText options with
  | error e => exact .inl ⟨e, rfl, rfl⟩
  | ok loaded =>
      obtain ⟨g, started, hrun⟩ := Site.run_answers ⟨fs.read, request, delay⟩ loaded
      refine .inr ⟨loaded, g, started, ?_⟩
      have hstarts : Starts request delay fs options loaded g started := ⟨hload, hrun⟩
      dsimp only
      rw [hrun]
      dsimp only
      cases houtput : options.output with
      | none => exact ⟨fs, .ok (), hstarts, .skipped houtput, rfl⟩
      | some path =>
          dsimp only
          cases hwrite : fs.write path (Text.Utf8.encode (pageText g.session.cache started)) with
          | ok fs' => exact ⟨fs', .ok (), hstarts, .done path fs' houtput hwrite, rfl⟩
          | error fault =>
              exact ⟨fs, .error fault, hstarts, .failed path fault houtput hwrite, rfl⟩

section

variable {path : String} {written : Except FileFault Unit} {fault : FileFault}

/-- A text cannot be written at a path only if none can. -/
theorem not_is_writable (h : fs.write path (Text.Utf8.encode text) = .error fault) :
    ¬ fs.IsWritable path := by
  intro hwritable
  obtain ⟨_, hwritten⟩ := hwritable.write (Text.Utf8.encode text)
  rw [h] at hwritten
  cases hwritten

/-- Whether a text is written depends on its place alone. -/
theorem Writes.can_emit_iff (h : Writes options fs text fs' written) :
    CanEmit options fs ↔ written = .ok () := by
  unfold CanEmit
  cases h with
  | skipped houtput =>
      rw [houtput]
      exact ⟨fun _ => rfl, fun _ => nofun⟩
  | done path _ houtput hwrite =>
      refine ⟨fun _ => rfl, fun _ other hother => ?_⟩
      rw [houtput] at hother
      cases hother
      exact ⟨text, fs', hwrite⟩
  | failed path _ houtput hwrite =>
      exact ⟨fun hcan => absurd (hcan path houtput) (not_is_writable hwrite), nofun⟩

/-- If the file that the options name can be written, the text stands in it. -/
theorem Writes.read_text (h : Writes options fs text fs' written)
    (houtput : options.output = some path) (hwritable : fs.IsWritable path) :
    fs'.readText path = .ok text := by
  cases h with
  | skipped hnone =>
      rw [hnone] at houtput
      cases houtput
  | done other _ hother hwrite =>
      rw [hother] at houtput
      cases houtput
      exact FileSystem.read_text_write hwrite
  | failed other _ hother hwrite =>
      rw [hother] at houtput
      cases houtput
      exact absurd hwritable (not_is_writable hwrite)

/-- If a text cannot be written, its writing fails for that reason. -/
theorem Writes.eq_error (h : Writes options fs text fs' written)
    (houtput : options.output = some path)
    (hwrite : fs.write path (Text.Utf8.encode text) = .error fault) : written = .error fault := by
  cases h with
  | skipped hnone =>
      rw [hnone] at houtput
      cases houtput
  | done other _ hother hdone =>
      rw [hother] at houtput
      cases houtput
      rw [hwrite] at hdone
      cases hdone
  | failed other _ hother hfailed =>
      rw [hother] at houtput
      cases houtput
      rw [hwrite] at hfailed
      cases hfailed
      rfl

/-- An outcome has the log of the start, and the warning if there is one. -/
theorem log_conclude (options : Options) (session : Session) (started : Except Error Page)
    (written : Except FileFault Unit) :
    (conclude options session started written).log =
      session.log ++ unwritten options started written := by
  unfold conclude
  rw [shown_eq]
  dsimp only
  split <;> rfl

/-- There is a warning only if the page of a failure could not be written. -/
theorem Writes.logs (h : Writes options fs (pageText session.cache started) fs' written) :
    Logs fs options started session.log (conclude options session started written).log := by
  rw [log_conclude]
  constructor
  · intro hcan
    have hnone : unwritten options started written = [] := by
      rcases hcan with ⟨page, rfl⟩ | hcan
      · rfl
      · rw [h.can_emit_iff.mp hcan]
        unfold unwritten
        cases started <;> cases options.output <;> rfl
    rw [hnone, List.append_nil]
  · rintro e path fault rfl houtput hwrite
    rw [← page_text_error session.cache] at hwrite
    rw [h.eq_error houtput hwrite]
    unfold unwritten
    rw [houtput]

end

/-- A page that could be written is all that the command leaves behind. -/
theorem Writes.emits (h : Writes options fs (page.html session.cache) fs' (.ok ())) :
    (conclude options session (.ok page) (.ok ())).code = 0 ∧
      Emits options fs' (conclude options session (.ok page) (.ok ()))
        (page.html session.cache) := by
  unfold Emits conclude
  cases h with
  | skipped houtput =>
      rw [houtput]
      exact ⟨rfl, rfl, rfl⟩
  | done path _ houtput hwrite =>
      rw [houtput]
      exact ⟨rfl, rfl, rfl, FileSystem.read_text_write hwrite⟩

/-! ## Runs -/

/-- What the command leaves behind: the files, and its exit code, output, log and report. -/
structure Leaves (request : String → Nat → Except FetchError Fetched) (delay : String → Nat)
    (fs : FileSystem) (options : Options) (fs' : FileSystem) (outcome : Outcome) : Prop where
  /-- It succeeds exactly if there is a page, and a place for it. -/
  success_iff : outcome.code = 0 ↔
    (∃ loaded g page, Starts request delay fs options loaded g (.ok page)) ∧ CanEmit options fs
  /-- If it succeeds, the page stands in its place. -/
  page : outcome.code = 0 → ∀ loaded g page, Starts request delay fs options loaded g (.ok page) →
    Emits options fs' outcome (page.html g.session.cache)
  /-- If it fails, it reports an error. If the settings were loaded, the page of that error stands
  in the file that the options name, unless that cannot be written. If they were not, no file is
  changed. -/
  failure : outcome.code ≠ 0 → ∃ e, Reports outcome e ∧ Cause request delay fs options e ∧
    ((∃ loaded, load fs.readText options = .ok loaded) → ∀ path, options.output = some path →
      fs.IsWritable path → fs'.readText path = .ok (errorText e)) ∧
    ((∃ cause, load fs.readText options = .error cause) → fs' = fs)
  /-- What it logs is the log of the start, and perhaps a warning. -/
  logs : ∀ loaded g started, Starts request delay fs options loaded g started →
    Logs fs options started g.session.log outcome.log
  /-- Without settings it logs nothing. -/
  silent : ∀ cause, load fs.readText options = .error cause → outcome.log = []

/-- A start has one answer. -/
theorem Starts.unique {loaded' : Settings.Loaded} {g' : Gui} {started' : Except Error Page}
    (h : Starts request delay fs options loaded g started)
    (h' : Starts request delay fs options loaded' g' started') : g' = g ∧ started' = started := by
  obtain rfl : loaded' = loaded := Except.ok.inj (h'.loads.symm.trans h.loads)
  have heq := h'.answers.symm.trans h.answers
  exact ⟨congrArg Prod.fst heq, Option.some.inj (congrArg Prod.snd heq)⟩

/-- A start needs settings. -/
theorem Starts.not_error (h : Starts request delay fs options loaded g started) :
    ¬ ∃ cause, load fs.readText options = .error cause := by
  rintro ⟨cause, hcause⟩
  rw [h.loads] at hcause
  cases hcause

/-- Without settings, nothing is written. -/
theorem leaves_of_settings {e : Error} (hload : load fs.readText options = .error e) :
    Leaves request delay fs options fs (.ofError [] e) := by
  refine ⟨⟨nofun, ?_⟩, nofun, fun _ => ?_, ?_, fun _ _ => rfl⟩
  · rintro ⟨⟨_, _, _, hstarts⟩, _⟩
    exact absurd ⟨e, hload⟩ hstarts.not_error
  · refine ⟨e, reports_of_error [] e, .settings e hload, ?_, fun _ => rfl⟩
    rintro ⟨loaded, hloaded⟩
    rw [hload] at hloaded
    cases hloaded
  · exact fun loaded g started hstarts => absurd ⟨e, hload⟩ hstarts.not_error

/-- What the log of a start says holds for the one answer of the start. -/
theorem logs_of_starts {after : List Notice}
    (hstarts : Starts request delay fs options loaded g started)
    (hlogs : Logs fs options started g.session.log after) :
    ∀ loaded' g' started', Starts request delay fs options loaded' g' started' →
      Logs fs options started' g'.session.log after := by
  intro loaded' g' started' hstarts'
  obtain ⟨rfl, rfl⟩ := hstarts.unique hstarts'
  exact hlogs

/-- If the start fails, the page of the failure is written. -/
theorem leaves_of_failure {e : Error} {written : Except FileFault Unit}
    (hstarts : Starts request delay fs options loaded g (.error e))
    (hwrites : Writes options fs (pageText g.session.cache (.error e)) fs' written) :
    Leaves request delay fs options fs'
      (conclude options g.session (.error e) written) := by
  have hlogs := logs_of_starts hstarts hwrites.logs
  obtain ⟨log, houtcome⟩ : ∃ log, conclude options g.session (.error e) written =
      .ofError log e := ⟨_, rfl⟩
  rw [houtcome] at hlogs ⊢
  rw [page_text_error] at hwrites
  refine ⟨⟨nofun, ?_⟩, nofun, fun _ => ?_, hlogs, fun cause hcause => ?_⟩
  · rintro ⟨⟨_, _, _, hpage⟩, _⟩
    cases (hstarts.unique hpage).2
  · exact ⟨e, reports_of_error log e, .start loaded g e hstarts, fun _ path houtput hwritable =>
      hwrites.read_text houtput hwritable, fun hcause => absurd hcause hstarts.not_error⟩
  · exact absurd ⟨cause, hcause⟩ hstarts.not_error

/-- If the start succeeds, its page is written. -/
theorem leaves_of_page {written : Except FileFault Unit}
    (hstarts : Starts request delay fs options loaded g (.ok page))
    (hwrites : Writes options fs (pageText g.session.cache (.ok page)) fs' written) :
    Leaves request delay fs options fs' (conclude options g.session (.ok page) written) := by
  have hlogs := logs_of_starts hstarts hwrites.logs
  have hsilent : ∀ cause, load fs.readText options = .error cause →
      (conclude options g.session (.ok page) written).log = [] :=
    fun cause hcause => absurd ⟨cause, hcause⟩ hstarts.not_error
  cases written with
  | ok =>
      obtain ⟨hcode, hemits⟩ := Writes.emits hwrites
      refine ⟨⟨fun _ => ⟨⟨loaded, g, page, hstarts⟩, hwrites.can_emit_iff.mpr rfl⟩,
        fun _ => hcode⟩, fun _ _ g' page' hstarts' => ?_, fun hfails => absurd hcode hfails,
        hlogs, hsilent⟩
      obtain ⟨rfl, hpage⟩ := hstarts.unique hstarts'
      cases hpage
      exact hemits
  | error fault =>
      have hcannot : ¬ CanEmit options fs := fun hcan => nomatch hwrites.can_emit_iff.mp hcan
      cases hwrites with
      | failed path _ houtput hwrite =>
          obtain ⟨log, houtcome⟩ : ∃ log, conclude options g.session (.ok page) (.error fault) =
              .ofError log (.output path fault.message) := by
            unfold conclude
            rw [houtput]
            exact ⟨_, rfl⟩
          rw [houtcome] at hlogs hsilent ⊢
          refine ⟨⟨nofun, fun hsucceeds => absurd hsucceeds.2 hcannot⟩, nofun, fun _ => ?_, hlogs,
            hsilent⟩
          refine ⟨_, reports_of_error log _,
            .output loaded g page path fault hstarts houtput hwrite,
            fun _ other hother hwritable => ?_, fun _ => rfl⟩
          rw [houtput] at hother
          cases hother
          exact absurd hwritable (not_is_writable hwrite)

/-- **What the command leaves behind.** If the arguments ask for a page, the command ends, and
leaves behind the page, or the page of a failure if the settings were loaded. -/
theorem run_leaves_page (request : String → Nat → Except FetchError Fetched)
    (delay : String → Nat) (fs : FileSystem) (arguments : List String) (options : Options)
    (harguments : Options.ofArguments arguments = .ok options) (hpage : options.version = false) :
    ∃ fs' outcome, run request delay fs arguments = (fs', some outcome) ∧
      Leaves request delay fs options fs' outcome := by
  have hrun : run request delay fs arguments = build request delay fs options := by
    unfold run
    rw [harguments]
    dsimp only
    rw [hpage, if_neg Bool.false_ne_true]
  rw [hrun]
  rcases build_cases request delay fs options with
    ⟨e, hload, hbuild⟩ | ⟨loaded, g, started, fs', written, hstarts, hwrites, hbuild⟩
  · exact ⟨fs, _, hbuild, leaves_of_settings hload⟩
  · refine ⟨fs', _, hbuild, ?_⟩
    cases started with
    | error e => exact leaves_of_failure hstarts hwrites
    | ok page => exact leaves_of_page hstarts hwrites

/-- A directory with a site whose page is empty. -/
def blankSite : FileSystem :=
  ⟨.ofFiles ["site"] [("gui.json", Text.Utf8.encode
      "\x7b\"name\": \"Blank\", \"structure\": \"s.json\", \"stylesheet\": \"s.css\"\x7d"),
    ("s.json", Text.Utf8.encode
      "\x7b\"types\": [\"void\"], \"widgets\": [[0, \x7b\x7d]], \"main\": 0\x7d"),
    ("s.css", [])], ["site"]⟩

theorem run_leaves_page_blank :
    let arguments := ["gui.json", "-o", "out.html"]
    let options : Options := ⟨some "gui.json", some "out.html", none, false, false⟩
    let request := (Surroundings.offline blankSite.read).request
    let delay := fun url => if url = "s.css" then 2 else 0
    Options.ofArguments arguments = .ok options ∧ options.version = false ∧
      ∃ fs' outcome, run request delay blankSite arguments = (fs', some outcome) ∧
        outcome.code = 0 ∧ Leaves request delay blankSite options fs' outcome := by
  intro arguments options request delay
  have harguments : Options.ofArguments arguments = .ok options := by decide
  obtain ⟨fs', outcome, hrun, hleaves⟩ :=
    run_leaves_page request delay blankSite arguments options harguments rfl
  have hcode : (run request delay blankSite arguments).2.map Outcome.code = some 0 := by
    decide +kernel
  rw [hrun] at hcode
  exact ⟨harguments, rfl, fs', outcome, hrun, Option.some.inj hcode, hleaves⟩

/-- If the settings cannot be loaded, the page of the failure is not written to a file that can be
written. -/
theorem settings_fault_leaves_no_page :
    let fs : FileSystem := ⟨.ofFiles ["tmp", "tree"] [], ["tmp", "tree"]⟩
    let arguments := ["nope.toml", "-o", "out.html"]
    let options : Options := ⟨some "nope.toml", some "out.html", none, false, false⟩
    Options.ofArguments arguments = .ok options ∧ options.version = false ∧
      fs.IsWritable "out.html" ∧ ∀ request delay, ∃ outcome e,
        run request delay fs arguments = (fs, some outcome) ∧ Reports outcome e ∧
          fs.readText "out.html" ≠ .ok (errorText e) := by
  intro fs arguments options
  refine ⟨by decide, rfl, ⟨"", _, rfl⟩, fun request delay => ?_⟩
  exact ⟨_, .settings (.io FileFault.notFound.message), rfl, reports_of_error [] _, nofun⟩

end Command

end Widgetry
