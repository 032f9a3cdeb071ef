import AccountSync.Proofs.Drain.Errands
import AccountSync.Proofs.Run.Images
import AccountSync.Proofs.Run.Release

/-!
# Marks of records in whole runs

A run of the tool lists the span of its drain, and its backend those of the drains inside it. Every
record carries the queue file of the innermost drain that was active when it was logged, whatever the
drains ended with; the report of a failed run carries none (`records_carry_innermost`). The directory's
backend is no exception (`Directory.conduct_factory`).
-/

namespace AccountSync

open Log (Span)

variable {σ α : Type}

/-! ### Runs that list spans -/

def routeListed (b : Backend (List Span × σ)) (realm : Option String) (limit : Int) :
    Command → Act (List Span × σ) Unit
  | .drain file => discard ((Controller.drain ⟨b, realm, limit⟩ file).spanned file)
  | .immediate user actions => route b realm limit (.immediate user actions)

def serveListed (settings : Settings) (factory : Act (List Span × σ) (Backend (List Span × σ)))
    (command : Command) : Act (List Span × σ) Unit := do
  let backend ← factory
  Act.ensuring (routeListed backend settings.realm settings.queueLineLimit.value command)
    backend.close

def runListed (settings : Settings) (optionsFirst : Bool) (words : List String)
    (factory : Act (List Span × σ) (Backend (List Span × σ))) : Act (List Span × σ) Exit := do
  match Log.threshold settings.logLevel with
  | .error defect => Act.breach defect
  | .ok _ =>
    match CommandLine.parse optionsFirst words with
    | .error fault => return .refusal (fault.report settings.programName)
    | .ok command => reported settings.programName (serveListed settings factory command)

namespace Act.Spanning

theorem discard {x : Act (List Span × σ) α} (spanning : x.Spanning) :
    (discard x : Act (List Span × σ) Unit).Spanning := by
  intro site
  rw [run_discard]
  exact spanning site

theorem ensuring {x cleanup : Act (List Span × σ) Unit} (spanning : x.Spanning)
    (cleans : cleanup.Spanning) : (x.ensuring cleanup).Spanning := by
  intro site
  obtain ⟨records, spans, leads⟩ := spanning site
  obtain ⟨more, others, onward⟩ := cleans (x.run site).2
  rw [ensuring_left]
  exact ⟨_, _, leads.trans onward⟩

theorem reported {x : Act (List Span × σ) Unit} (spanning : x.Spanning) (program : String) :
    (reported program x).Spanning := by
  intro site
  obtain ⟨records, spans, leads⟩ := spanning site
  rw [run_reported]
  generalize x.run site = ended at leads
  obtain ⟨result, after⟩ := ended
  rcases result with (failure | defect) | _
  · exact ⟨_, _, leads.trans (.note after _)⟩
  · exact ⟨_, _, leads⟩
  · exact ⟨_, _, leads⟩

theorem resolve (realm : Option String) (text : String) :
    (resolve realm text : Act (List Span × σ) Principal).Spanning := by
  refine .still fun site => ?_
  rw [run_resolve]
  cases Principal.parse realm text <;> exact ⟨rfl, rfl, rfl⟩

section

variable {b : Backend (List Span × σ)} (calls : ∀ request, (b.perform request).Spanning)

include calls

theorem dispatch (realm : Option String) (principal : Principal) (action : Action) (name : String) :
    (dispatch b realm principal action name).Spanning := by
  refine .bind (calls _) fun answer => ?_
  split
  · exact .emit _
  · exact .still fun site => ⟨rfl, rfl, rfl⟩

theorem route (realm : Option String) (limit : Int) (command : Command) :
    (routeListed b realm limit command).Spanning := by
  cases command with
  | drain file => exact .discard (spanning_drain calls realm limit file)
  | immediate user actions =>
    refine .bind (.resolve realm user) fun principal => ?_
    induction actions with
    | nil => exact .still fun site => ⟨rfl, rfl, rfl⟩
    | cons action rest ih => exact .bind (.dispatch calls realm principal action user) fun _ => ih

end

end Act.Spanning

theorem through_routeListed {b : Backend (List Span × σ)} {b' : Backend σ}
    (calls : ∀ request, Through Site.unlisted (b.perform request) (b'.perform request))
    (realm : Option String) (limit : Int) (command : Command) :
    Through Site.unlisted (routeListed b realm limit command) (route b' realm limit command) := by
  have plain := through_route transparent_unlisted calls realm limit command
  cases command with
  | immediate user actions => exact plain
  | drain file =>
    intro site
    rw [plain site, route, routeListed, run_discard, run_discard]
    rfl

section

variable (conduct : Conduct σ) (realm : Option String) (limit : Int) (depth : Nat)
  (settings : Settings)

theorem serve_factory (visit : String → Act σ Queue.Record) (command : Command) :
    serve settings (conduct.factory visit) command = (do
      conduct.opening.run visit
      Act.ensuring (route (conduct.backend visit) settings.realm settings.queueLineLimit.value command)
        (conduct.backend visit).close) := by
  rw [serve, Conduct.factory, bind_assoc]
  simp only [pure_bind]

theorem serveListed_factory (visit : String → Act (List Span × σ) Queue.Record) (command : Command) :
    serveListed settings (conduct.listed.factory visit) command = (do
      conduct.opening.listed.run visit
      Act.ensuring (routeListed (conduct.listed.backend visit) settings.realm
        settings.queueLineLimit.value command) (conduct.listed.backend visit).close) := by
  rw [serveListed, Conduct.factory, bind_assoc]
  simp only [pure_bind]
  rfl

theorem spanning_serve (command : Command) :
    (serveListed settings (conduct.listed.factory (conduct.listedDrains realm limit depth))
      command).Spanning := by
  have visits := conduct.spanning_drains realm limit depth
  rw [serveListed_factory]
  exact .bind (.errand visits _) fun _ =>
    .ensuring (.route (fun request => .errand visits _) _ _ command) (.errand visits _)

theorem through_serve (command : Command) :
    Through Site.unlisted
      (serveListed settings (conduct.listed.factory (conduct.listedDrains realm limit depth)) command)
      (serve settings (conduct.factory (conduct.plainDrains realm limit depth)) command) := by
  have visits := conduct.through_drains realm limit depth
  rw [serveListed_factory, serve_factory]
  exact through_bind (through_errand visits _) fun _ =>
    through_ensuring (through_routeListed (fun request => through_errand visits _) _ _ command)
      (through_errand visits _)

theorem runListed_attributes (optionsFirst : Bool) (words : List String) :
    Attributes
      (runListed settings optionsFirst words
        (conduct.listed.factory (conduct.listedDrains realm limit depth)))
      (runWith settings optionsFirst words
        (conduct.factory (conduct.plainDrains realm limit depth))) := by
  have still {x : Act σ Exit} {y : Act (List Span × σ) Exit} (through : Through Site.unlisted y x)
      (still : ∀ site, (y.run site).2 = site) : Attributes y x := by
    refine Act.Spanning.attributes (.still fun site => ?_) through
    rw [still site]
    exact ⟨rfl, rfl, rfl⟩
  unfold runListed runWith
  cases Log.threshold settings.logLevel with
  | error defect => exact still (fun site => rfl) fun site => rfl
  | ok threshold =>
    cases CommandLine.parse optionsFirst words with
    | error fault => exact still (fun site => rfl) fun site => rfl
    | ok command =>
      exact Act.Spanning.attributes
        (.reported (spanning_serve conduct realm limit depth settings command) _)
        (through_reported transparent_unlisted
          (through_serve conduct realm limit depth settings command) _)

theorem serve_mark (command : Command) (site : Site σ) :
    ((serve settings (conduct.factory (conduct.plainDrains realm limit depth)) command).run
      site).2.queueFile = site.queueFile := by
  obtain ⟨_, _, leads⟩ := spanning_serve conduct realm limit depth settings command site.listing
  have same := through_serve conduct realm limit depth settings command site.listing
  exact (congrArg (fun ended => ended.2.queueFile) same).trans leads.mark

end

/-! ### The directory's backend -/

theorem Act.Detached.discard {x : Act σ α} {memories : σ → Prop} {fitting : α → Prop}
    (apart : x.Detached memories fitting) :
    (discard x : Act σ Unit).Detached memories fun _ => True := by
  intro memory known
  obtain ⟨result, events, after, runs, kept, _⟩ := apart memory known
  refine ⟨result.map fun _ => (), events, after, fun site at_ => ?_, kept, fun _ _ => trivial⟩
  rw [run_discard, runs site at_]

namespace Errand

/-- Does what `x` does, if `x` only logs and changes the memory. -/
def replay (x : Act σ α) : Errand σ α :=
  look fun site =>
    let ended := x.run site
    let events := (ended.2.log.drop site.log.length).map Log.Record.event
    events.foldr report (remember ended.2.peer (finish ended.1))

theorem run_reports (visit : String → Act σ Queue.Record) (events : List Log.Event)
    (last : Errand σ α) (site : Site σ) :
    ((events.foldr report last).run visit).run site =
      (last.run visit).run (site.absorb events site.peer) := by
  induction events generalizing site with
  | nil => rw [site.absorb_nil]; rfl
  | cons event rest ih =>
    change ((rest.foldr report last).run visit).run (site.absorb [event] site.peer) = _
    rw [ih, site.absorb_absorb]
    rfl

theorem run_replay {x : Act σ α} {fitting : α → Prop} (detached : x.Detached (fun _ => True) fitting)
    (visit : String → Act σ Queue.Record) : (replay x).run visit = x := by
  funext site
  obtain ⟨result, events, memory, runs, _⟩ := detached site.peer trivial
  have ended : x.run site = (result, site.absorb events memory) := runs site rfl
  have logged : ((site.absorb events memory).log.drop site.log.length).map Log.Record.event = events := by
    simp [Site.absorb, Function.comp_def]
  change Act.run (Errand.run visit (List.foldr report _ _)) site = _
  rw [ended, logged, run_reports]
  exact ended.symm

end Errand

namespace Directory

/-- The directory's backend, as what it does with its connection. -/
def conduct (endpoint : Endpoint) (config : Config) : Conduct Connection where
  opening := .replay (discard (connect endpoint config))
  answering request := .replay (config.perform request)
  closing := .replay close

section

variable (endpoint : Endpoint) (config : Config) (visit : String → Act Connection Queue.Record)

theorem connect_backend {site after : Site Connection} {b : Backend Connection}
    (made : (connect endpoint config).run site = (.ok b, after)) : b = backend config := by
  by_cases accepts : site.peer.accepts
  · rw [connect_accepted endpoint config site accepts] at made
    cases made
    rfl
  · obtain ⟨fault, refused⟩ := connect_refused endpoint config site accepts
    rw [refused] at made
    cases made

theorem conduct_backend : (conduct endpoint config).backend visit = backend config := by
  have apart := backend_detached config
  have performs (request : Request) :
      (Errand.replay (config.perform request)).run visit = config.perform request :=
    Errand.run_replay (apart.perform request) visit
  have closes : (Errand.replay close).run visit = close := Errand.run_replay apart.close visit
  unfold Conduct.backend conduct
  simp only [performs, closes]
  rfl

theorem conduct_factory : (conduct endpoint config).factory visit = connect endpoint config := by
  have opens : (Errand.replay (discard (connect endpoint config))).run visit =
      discard (connect endpoint config) :=
    Errand.run_replay (connect_detached endpoint config).discard visit
  funext site
  change Act.run ((Errand.replay (discard (connect endpoint config))).run visit >>= fun _ =>
    pure ((conduct endpoint config).backend visit)) site = (connect endpoint config).run site
  rw [opens, conduct_backend, Act.run_bind, run_discard]
  -- whatever the connection answers, there is only one backend that can come of it
  cases made : (connect endpoint config).run site with
  | mk result after =>
  cases result with
  | error fault => rfl
  | ok b =>
    rw [connect_backend endpoint config made]
    rfl

end

end Directory

/-! ### Every record -/

/-- Whatever the collaborator does, and to whatever depth it drains again: every record that is logged
while a drain is active carries the file of the innermost one, and all others carry what was in force
before, which is in force again when the drains have ended, however they ended. In a run of the tool
that is nothing, and its report carries nothing. The directory's backend is such a collaborator. -/
theorem records_carry_innermost (conduct : Conduct σ) (realm : Option String) (limit : Int)
    (depth : Nat) :
    let drains := conduct.plainDrains realm limit depth
    let listed := conduct.listedDrains realm limit depth
    (∀ (α : Type) (errand : Errand σ α),
        Attributes (errand.listed.run listed) (errand.run drains)) ∧
      (∀ (c : Controller σ) file site, ((c.drain file).run site).2.queueFile = site.queueFile) ∧
      (∀ settings optionsFirst words,
        Attributes (runListed settings optionsFirst words (conduct.listed.factory listed))
          (runWith settings optionsFirst words (conduct.factory drains))) ∧
      (∀ settings optionsFirst words threshold command files memory f,
        Log.threshold settings.logLevel = .ok threshold →
        CommandLine.parse optionsFirst words = .ok command →
        let served :=
          (serve settings (conduct.factory drains) command).run (Site.start files memory)
        let ran := (runWith settings optionsFirst words (conduct.factory drains)).run
          (Site.start files memory)
        served.1 = .error (.failure f) →
          ran.2.log = served.2.log ++ [⟨.syncFailed f.message f.kind, none⟩]) ∧
      ∀ endpoint config, ∃ directory : Conduct Directory.Connection,
        ∀ visit, directory.factory visit = Directory.connect endpoint config := by
  intro drains listed
  refine ⟨fun _ errand => errand.attributes conduct realm limit depth, fun c file site => ?_,
    fun settings optionsFirst words =>
      runListed_attributes conduct realm limit depth settings optionsFirst words,
    ?report, fun endpoint config =>
      ⟨Directory.conduct endpoint config, Directory.conduct_factory endpoint config⟩⟩
  · rw [Controller.run_drain]
    rfl
  · intro settings optionsFirst words threshold command files memory f leveled parsed served ran failed
    have unmarked : served.2.queueFile = none :=
      serve_mark conduct realm limit depth settings command (.start files memory)
    have ended : (serve settings (conduct.factory drains) command).run (.start files memory) =
        (.error (.failure f), served.2) := Prod.ext failed rfl
    change ((runWith settings optionsFirst words (conduct.factory drains)).run _).2.log = _
    rw [runWith_parsed leveled parsed, run_reported, ended]
    change served.2.log ++ [⟨_, served.2.queueFile⟩] = _
    rw [unmarked]

/-- A collaborator that drains another file when it is called, and refuses whatever becomes of that.
Called again, it raises. -/
def Conduct.meddling : Conduct Bool where
  opening := .finish (.ok ())
  answering _ := .look fun site =>
    if site.peer then .finish (.error (.defect (.raised "down")))
    else .remember true (.drain "b" fun _ =>
      .report (.notice "hook" "resumed") (.finish (.ok ⟨53, "no"⟩)))
  closing := .report (.notice "hook" "closed") (.finish (.ok ()))

/-- The inner drain ends in a defect that the backend takes. It leaves the stage at `parsed`, so the
outer one fails with the answer of the backend. -/
theorem records_carry_innermost_nested :
    let settings := Settings.serving "R" ⟨8192, by decide⟩
    let queued : Entry := .file (.ofBytes (Utf8.encode "u\nad\nenable\n"))
    let files : Files := ⟨[(["a"], queued), (["b"], queued)], [], none⟩
    let factory := Conduct.meddling.factory (Conduct.meddling.plainDrains (some "R") 8192 1)
    let listed := Conduct.meddling.listed.factory (Conduct.meddling.listedDrains (some "R") 8192 1)
    let site := Site.start files false
    let served := (serve settings factory (.drain "a")).run site
    let ran := (runWith settings false ["-f", "a"] factory).run site
    let noted := (runListed settings false ["-f", "a"] listed).run site.listing
    let failure : Failure := .backendRefused "status" "u" 53 "no"
    Log.threshold settings.logLevel = .ok 20 ∧ CommandLine.parse false ["-f", "a"] = .ok (.drain "a") ∧
      served.1 = .error (.failure failure) ∧
      ran.2.log = served.2.log ++ [⟨.syncFailed failure.message failure.kind, none⟩] ∧
      noted.2.peer.1 = [⟨"b", 2, 4⟩, ⟨"a", 0, 6⟩] ∧
      ran.2.log.map Log.Record.queueFile =
        [some "a", some "a", some "b", some "b", some "a", some "a", none, none] ∧
      Log.Attributed none [] noted.2.log noted.2.peer.1 := by
  intro settings queued files factory listed site served ran noted failure
  have leveled : Log.threshold settings.logLevel = .ok 20 := by cbv
  have parsed := CommandLine.parse_file false "a"
  have failed : served.1 = .error (.failure failure) := rfl
  obtain ⟨_, _, attributes, reports, _⟩ :=
    records_carry_innermost Conduct.meddling (some "R") 8192 1
  exact ⟨leveled, parsed, failed,
    reports settings false ["-f", "a"] 20 _ files false failure leveled parsed failed, by decide, by decide,
    (attributes settings false ["-f", "a"] site).2.2⟩

end AccountSync
