import SparkGateway.Batch.Completion
import SparkGateway.Proofs.Batch.Status

/-!
# The course of a wait for a batch

Whoever waits for the end of a batch looks at the batch until an answer shows it at its end, and then,
if an application ran it, at the application until its logs are put together.  Each loop of the wait
holds the loop of a polled operation.  Both are taken together here as one sequence of looks at one
address: every look but the last is followed by one pause, whose length says which of the two loops
went on.
-/

namespace SparkGateway

namespace Batch

open Run Polling

variable {σ τ : Type} {env : Surroundings τ}

/-- An answer about the batch at an address shows it in a state. -/
def Shows (url : String) (a : Answer) (snapshot : Snapshot) (state : State) : Prop :=
  ∃ found word, a.goodReply? (.get url) = some found ∧ Snapshot.ofReply found = .ok snapshot ∧
    snapshot.state = some word ∧ State.parse word = .ok state

/-- An answer about the batch at an address is a good one that does not name a state. -/
def ShowsNoState (url : String) (a : Answer) : Prop :=
  ∃ found snapshot, a.goodReply? (.get url) = some found ∧
    Snapshot.ofReply found = .ok snapshot ∧ snapshot.state = none

/-- An answer from the resource manager tells of an application. -/
def Tells (url : String) (a : Answer) (application : Cluster.Application) : Prop :=
  ∃ found, a.goodReply? (.get url) = some found ∧
    Cluster.Application.ofReply found = .ok application

/-- The logs of an application are put together, or never will be. -/
def LogsSettled (application : Cluster.Application) : Prop :=
  Text.upper application.logAggregation = "SUCCEEDED" ∨
    Text.upper application.logAggregation = "FAILED"

/-- A look at the batch that is not the last, with the pause after it: the pause between attempts if
the answer is nothing yet, and otherwise one second. -/
def GoingLook [Timeline τ] (b : Batch τ) (url : String) (look : Answer × τ) : Prop :=
  ((look.1.Missed (.get url) ∨ ShowsNoState url look.1) ∧ look.2 = b.polling.pause) ∨
    ∃ snapshot state, Shows url look.1 snapshot state ∧ state.isDone = false ∧
      look.2 = Timeline.seconds 1

/-- The last look at the batch. -/
def DoneLook (url : String) (a : Answer) (v : Snapshot × State) : Prop :=
  Shows url a v.1 v.2 ∧ v.2.isDone = true

/-- A look at the application that is not the last, with the pause after it. -/
def GoingVisit [Timeline τ] (b : Batch τ) (url : String) (look : Answer × τ) : Prop :=
  (look.1.Missed (.get url) ∧ look.2 = b.polling.pause) ∨
    ∃ application, Tells url look.1 application ∧ ¬ LogsSettled application ∧
      look.2 = Timeline.seconds 1

/-- The last look at the application, and what it has to say about its end. -/
def SettledVisit (url : String) (a : Answer) (diagnostics : String) : Prop :=
  ∃ application, Tells url a application ∧ LogsSettled application ∧
    diagnostics = application.diagnostics

/-! ## Looks that are nothing yet -/

theorem application_ne_unreachable (found : Reply) (message : String) :
    Cluster.Application.ofReply found ≠ .error (.unreachable message) := by
  intro h
  obtain ⟨message', hmessage⟩ := Cluster.Application.ofReply_error h
  cases hmessage

/-- The word for the state in a snapshot that was looked for, with the snapshot. -/
def named (found : Option Snapshot) : Option (Snapshot × String) :=
  found.bind fun snapshot => snapshot.state.map fun word => (snapshot, word)

/-- What an answer about the batch at an address comes to for work that wants to know its state. -/
def stateIn (url : String) (a : Answer) : Except Stop (Option (Snapshot × String)) :=
  statusIn url a >>= fun found => .ok (named found)

theorem notYet_stateIn {url : String} {a : Answer} (h : notYet (stateIn url a) = true) :
    a.Missed (.get url) ∨ ShowsNoState url a := by
  unfold stateIn statusIn at h
  rw [bind_assoc] at h
  rcases Answer.missed_of_notYet h with hmissed | ⟨found, hgood, hyet⟩
  · exact .inl hmissed
  · dsimp only at hyet
    cases hsnapshot : Snapshot.ofReply found with
    | error e =>
        rw [hsnapshot] at hyet
        rcases notYet_iff.1 hyet with hnone | ⟨message, hlost⟩
        · cases hnone
        · cases hlost
          exact absurd hsnapshot (snapshot_ne_unreachable found message)
    | ok snapshot =>
        rw [hsnapshot] at hyet
        refine .inr ⟨found, snapshot, hgood, hsnapshot, ?_⟩
        cases hstate : snapshot.state with
        | none => rfl
        | some word =>
            simp [Except.map, bind, Except.bind, named, hstate, notYet] at hyet

theorem stateIn_eq_some {url : String} {a : Answer} {snapshot : Snapshot} {word : String}
    (h : stateIn url a = .ok (some (snapshot, word))) :
    ∃ found, a.goodReply? (.get url) = some found ∧ Snapshot.ofReply found = .ok snapshot ∧
      snapshot.state = some word := by
  unfold stateIn statusIn at h
  rw [bind_assoc] at h
  obtain ⟨found, hgood, hread⟩ := Answer.goodReply_of_some h rfl
  dsimp only at hread
  cases hsnapshot : Snapshot.ofReply found with
  | error e =>
      rw [hsnapshot] at hread
      cases hread
  | ok snapshot' =>
      rw [hsnapshot] at hread
      cases hstate : snapshot'.state with
      | none => simp [Except.map, bind, Except.bind, named, hstate] at hread
      | some word' =>
          simp [Except.map, bind, Except.bind, named, hstate] at hread
          obtain ⟨rfl, rfl⟩ := hread
          exact ⟨found, hgood, hsnapshot, hstate⟩

/-- What an answer about an application comes to. -/
def applicationIn (url : String) (a : Answer) : Except Stop (Option Cluster.Application) :=
  a.looked (.get url) >>= fun
    | some found => ((Cluster.Application.ofReply found).mapError .fault).map some
    | none => .ok none

theorem missed_of_notYet_applicationIn {url : String} {a : Answer}
    (h : notYet (applicationIn url a) = true) :
    a.Missed (.get url) := by
  rcases Answer.missed_of_notYet h with hmissed | ⟨found, -, hyet⟩
  · exact hmissed
  · dsimp only at hyet
    cases hfound : Cluster.Application.ofReply found with
    | error f =>
        rw [hfound] at hyet
        rcases notYet_iff.1 hyet with hnone | ⟨message, hlost⟩
        · cases hnone
        · cases hlost
          exact absurd hfound (application_ne_unreachable found message)
    | ok application =>
        rw [hfound] at hyet
        cases hyet

theorem tells_of_applicationIn {url : String} {a : Answer} {application : Cluster.Application}
    (h : applicationIn url a = .ok (some application)) :
    Tells url a application := by
  obtain ⟨found, hgood, hread⟩ := Answer.goodReply_of_some h rfl
  refine ⟨found, hgood, ?_⟩
  dsimp only at hread
  cases hfound : Cluster.Application.ofReply found with
  | error f =>
      rw [hfound] at hread
      cases hread
  | ok application' =>
      rw [hfound] at hread
      cases hread
      rfl

/-! ## The rounds of the wait -/

variable [Timeline τ] {b : Batch τ} {url : String}

theorem pollStatus_sought (hurl : b.batchUrl = .ok url) (what : String) :
    Does (σ := σ) env (b.pollStatus what) fun es r => ∀ v, r = .ok v →
      Sought (.get url) (fun look => notYet (stateIn url look.1) = true ∧ look.2 = b.polling.pause)
        (fun a v => stateIn url a = .ok (some v)) es v := by
  refine seek_sought ((status_reads hurl).reads_bind fun found => ?_)
  cases found with
  | none => exact value_silent _
  | some snapshot => exact value_silent _

/-- A look at the batch ends the wait if it shows it at its end, and is otherwise waited after. -/
theorem endRound_does (hurl : b.batchUrl = .ok url) :
    Does (σ := σ) env b.endRound (WaitRound (.get url) (GoingLook b url) (DoneLook url)) := by
  refine waitRound_of_sought (pollStatus_sought hurl _) ?_ ?_
  · rintro look ⟨hyet, hpause⟩
    exact .inl ⟨notYet_stateIn hyet, hpause⟩
  · rintro a ⟨snapshot, word⟩ hin
    obtain ⟨found, hgood, hsnapshot, hword⟩ := stateIn_eq_some hin
    refine (ofFault_silent (State.parse word)).silent_bind ?_ ?_
    · intro state hstate
      have hshows : Shows url a snapshot state := by
        refine ⟨found, word, hgood, hsnapshot, hword, ?_⟩
        cases hparse : State.parse word with
        | error f =>
            rw [hparse] at hstate
            cases hstate
        | ok state' =>
            rw [hparse] at hstate
            cases hstate
            rfl
      cases hdone : state.isDone with
      | true => exact judged_done ⟨hshows, hdone⟩
      | false => exact judged_pause (.inr ⟨snapshot, state, hshows, hdone, rfl⟩)
    · intro e _
      exact ⟨fun v hv => (nomatch hv), fun hr => (nomatch hr)⟩

theorem application_sought {c : Cluster τ} {p : Polling τ} {id : String}
    (hurl : c.applicationUrl id = .ok url) :
    Does (σ := σ) env (c.application p id) fun es r => ∀ v, r = .ok v →
      Sought (.get url) (fun look => notYet (applicationIn url look.1) = true ∧ look.2 = p.pause)
        (fun a v => applicationIn url a = .ok (some v)) es v := by
  unfold Cluster.application
  rw [hurl]
  refine seek_sought ((lookUp_reads url).reads_bind fun found => ?_)
  cases found with
  | none => exact value_silent _
  | some found =>
      refine (ofFault_silent (Cluster.Application.ofReply found)).silent_bind ?_ ?_
      · intro application happlication
        dsimp only
        rw [happlication]
        exact value_silent _
      · intro e he
        dsimp only
        rw [he]
        exact ⟨rfl, rfl⟩

omit [Timeline τ] in
theorem isAggregated_iff (application : Cluster.Application) :
    application.isAggregated = true ↔ LogsSettled application := by
  simp [Cluster.Application.isAggregated, Cluster.Application.aggregatedStates, LogsSettled]

theorem logsRound_does {c : Cluster τ} {id : String} (hurl : c.applicationUrl id = .ok url) :
    Does (σ := σ) env (b.logsRound c id)
      (WaitRound (.get url) (GoingVisit b url) (SettledVisit url)) := by
  refine waitRound_of_sought (application_sought hurl) ?_ ?_
  · rintro look ⟨hyet, hpause⟩
    exact .inl ⟨missed_of_notYet_applicationIn hyet, hpause⟩
  · intro a application hin
    have htells := tells_of_applicationIn hin
    have hiff := isAggregated_iff application
    by_cases hsettled : application.isAggregated = true
    · rw [if_pos hsettled]
      exact judged_done ⟨application, htells, hiff.1 hsettled, rfl⟩
    · rw [if_neg hsettled]
      refine (note_silent _ _).silent_bind ?_ (fun e he => nomatch he)
      intro _ _
      exact judged_pause (.inr ⟨application, htells, mt hiff.2 hsettled, rfl⟩)

/-! ## The whole wait -/

/-- A batch without a number is never seen at its end. -/
theorem endRound_ne_ok {f : Fault} (hurl : b.batchUrl = .error f) :
    Does (σ := σ) env b.endRound fun _ r => ∀ next, r ≠ .ok next := by
  have hstatus : Does (σ := σ) env b.status (Silent (.error (.fault f))) := by
    unfold status
    rw [hurl]
    exact stop_silent _
  have hpoll : Does (σ := σ) env (b.pollStatus "get job state") fun _ r => ∀ v, r ≠ .ok v := by
    refine seek_ne_ok (hstatus.silent_bind (A := Silent (.error (.fault f))) ?_ ?_) ?_
    · intro found hfound
      cases hfound
    · intro e he
      cases he
      exact ⟨rfl, rfl⟩
    · rintro es v ⟨-, hv⟩
      cases hv
  refine hpoll.bind ?_ ?_
  · intro es v hv
    exact absurd rfl (hv v)
  · exact fun es e _ next hnext => nomatch hnext

/-- The loop over the looks at a batch comes to an end only where an answer shows the batch at its
end. -/
theorem endRounds_sought (b : Batch τ) :
    Does (σ := σ) env (rounds (fun () => b.endRound) ()) fun es r => ∀ v, r = .ok v →
      ∃ url, b.batchUrl = .ok url ∧ Sought (.get url) (GoingLook b url) (DoneLook url) es v := by
  cases hurl : b.batchUrl with
  | error f =>
      refine (rounds_does (fun _ => endRound_ne_ok hurl) ()).mono ?_
      intro es r hrounds v hv
      exact absurd hv (hrounds.ne_ok (fun _ _ next h => h next rfl) v)
  | ok url =>
      refine (rounds_does (fun _ => endRound_does hurl) ()).mono ?_
      intro es r hrounds v hv
      exact ⟨url, rfl, sought_of_rounds hrounds hv⟩

theorem logsRounds_sought (b : Batch τ) (c : Cluster τ) (id : String) :
    Does (σ := σ) env (rounds (fun () => b.logsRound c id) ()) fun es r => ∀ v, r = .ok v →
      ∃ url, c.applicationUrl id = .ok url ∧
        Sought (.get url) (GoingVisit b url) (SettledVisit url) es v := by
  cases hurl : c.applicationUrl id with
  | error m =>
      have hround : Does (σ := σ) env (b.logsRound c id) fun _ r => ∀ next, r ≠ .ok next := by
        unfold logsRound Cluster.application
        rw [hurl]
        exact does_stop _ fun next hnext => nomatch hnext
      refine (rounds_does (fun _ => hround) ()).mono ?_
      intro es r hrounds v hv
      exact absurd hv (hrounds.ne_ok (fun _ _ next h => h next rfl) v)
  | ok url =>
      refine (rounds_does (fun _ => logsRound_does hurl) ()).mono ?_
      intro es r hrounds v hv
      exact ⟨url, rfl, sought_of_rounds hrounds hv⟩

/-- The course of a wait that has come to its end: looks at the batch, and then looks at the application
that ran it, if there is one. -/
def CompletedCourse (b : Batch τ) (es : List (Event τ)) (state : State) (diagnostics : String) :
    Prop :=
  ∃ url snapshot looks visits, b.batchUrl = .ok url ∧ es = looks ++ visits ∧
    Sought (.get url) (GoingLook b url) (DoneLook url) looks (snapshot, state) ∧
    match snapshot.application with
    | none => visits = [] ∧ diagnostics = ""
    | some application => ∃ c appUrl, b.cluster = some c ∧
        c.applicationUrl application.display = .ok appUrl ∧
        Sought (.get appUrl) (GoingVisit b appUrl) (SettledVisit appUrl) visits diagnostics

theorem awaitCompletion_does (b : Batch τ) :
    Does (σ := σ) env b.awaitCompletion fun es r =>
      ∀ state diagnostics, r = .ok (state, diagnostics) →
        CompletedCourse b es state diagnostics := by
  refine (endRounds_sought b).bind ?_ ?_
  · rintro es ⟨snapshot, state⟩ hes
    obtain ⟨url, hurl, hlooks⟩ := hes _ rfl
    refine (ofFault_silent b.number).silent_bind ?_ (fun e _ _ _ hr => nomatch hr)
    intro id _
    refine (note_silent _ _).silent_bind ?_ (fun e _ _ _ hr => nomatch hr)
    intro _ _
    cases happlication : snapshot.application with
    | none =>
        refine does_value _ ?_
        intro state' diagnostics hr
        cases hr
        exact ⟨url, snapshot, es, [], hurl, rfl, hlooks, by simp [happlication]⟩
    | some application =>
        cases hcluster : b.cluster with
        | none =>
            simp only [manager, hcluster]
            exact does_stop _ fun _ _ hr => nomatch hr
        | some c =>
            simp only [manager, hcluster]
            refine (value_silent c).silent_bind ?_ (fun e he => nomatch he)
            intro c' hc
            cases hc
            refine (logsRounds_sought b c application.display).bind ?_ ?_
            · intro visits diagnostics hvisits
              obtain ⟨appUrl, happUrl, hsought⟩ := hvisits _ rfl
              refine does_value _ ?_
              intro state' diagnostics' hr
              cases hr
              refine ⟨url, snapshot, es, visits, hurl, by simp, hlooks, ?_⟩
              rw [happlication]
              exact ⟨c, appUrl, hcluster, happUrl, hsought⟩
            · exact fun _ _ _ _ _ hr => nomatch hr
  · exact fun es e _ state diagnostics hr => nomatch hr

/-- Whoever has waited for a batch has looked at it until it was at its end, and then at its application
until the logs were put together, with one pause after every look but the two last. -/
theorem completedCourse_of_awaitCompletion (b : Batch τ) (env : Surroundings τ) (w : World σ τ)
    {state : State} {diagnostics : String}
    (h : (b.awaitCompletion env w).1 = .ok (state, diagnostics)) :
    CompletedCourse b (b.awaitCompletion.events env w) state diagnostics :=
  (awaitCompletion_does b).holds w state diagnostics h

/-- A server at which the first look at the batch 7 fails, the second finds it at work and the third at
its end; the resource manager cannot be reached at first, then puts the logs together, and then has
done so. -/
def slowServer : Surroundings Number where
  answer t r :=
    if r.url = "http://livy:8998/batches/7" then
      match t.requests.length with
      | 0 => .reply 500 none none
      | 1 => .reply 200 (some "\x7b\"id\": 7, \"state\": \"running\"\x7d") none
      | _ => .reply 200 (some "\x7b\"id\": 7, \"state\": \"Success\", \"appId\": \"app_1\"\x7d") none
    else
      match t.requests.length with
      | 3 => .broken "reset"
      | 4 => .reply 200 (some "\x7b\"app\": \x7b\"logAggregationStatus\": \"RUNNING\"\x7d\x7d") none
      | _ => .reply 200
          (some "\x7b\"app\": \x7b\"logAggregationStatus\": \"failed\", \"diagnostics\": \"lost\"\x7d\x7d") none
  page _ _ := .stop .cancelled
  halt _ := none
  confirms _ := false
  picks _ := []
  turn _ := 0
  waits := true
  connects := false
  patience := 9

theorem completedCourse_of_slowServer :
    let b : Batch Number :=
      ⟨"http://livy:8998/batches", none, some (.on "http://livy:8998/batches" "/yarnui" (.whole 3)),
        ⟨3, .whole 5⟩, some 7⟩
    let w : World Unit Number := ⟨(), .whole 0, []⟩
    (b.awaitCompletion slowServer w).1.toOption = some (.success, "lost") ∧
      CompletedCourse b (b.awaitCompletion.events slowServer w) .success "lost" := by
  intro b w
  have hrun : (b.awaitCompletion slowServer w).1.toOption = some (.success, "lost") := by
    decide +kernel
  have hok : (b.awaitCompletion slowServer w).1 = .ok (.success, "lost") := by
    cases h : (b.awaitCompletion slowServer w).1 with
    | ok v =>
        rw [h] at hrun
        obtain rfl := Option.some.inj hrun
        rfl
    | error e =>
        rw [h] at hrun
        cases hrun
  exact ⟨hrun, completedCourse_of_awaitCompletion b slowServer w hok⟩

end Batch

end SparkGateway
