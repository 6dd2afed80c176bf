import Mathlib.Data.List.Chain
import SparkGateway.Proofs.Batch.Following

/-!
# The laws of a followed log

The requests, lines, reports and pauses of a whole course of a followed log, for every server that
answers with readable documents and for every number of pages and waits.
-/

namespace SparkGateway

variable {σ τ : Type}

/-- The line of the log that an event gives. -/
def Event.logLine? : Event τ → Option String
  | .gave (.line .log text) => some text
  | _ => none

namespace Batch

open Run

/-- The lines of the log among what was given. -/
def logLines (es : List (Event τ)) : List String := es.filterMap Event.logLine?

@[simp] theorem logLines_append (es fs : List (Event τ)) :
    logLines (es ++ fs) = logLines es ++ logLines fs := List.filterMap_append

@[simp] theorem logLines_nil : logLines ([] : List (Event τ)) = [] := rfl

@[simp] theorem logLines_answered (r : Request) (a : Answer) (es : List (Event τ)) :
    logLines (.answered r a :: es) = logLines es := rfl

@[simp] theorem logLines_paused (amount : τ) (es : List (Event τ)) :
    logLines (.paused amount :: es) = logLines es := rfl

@[simp] theorem logLines_line (line : String) (es : List (Event τ)) :
    logLines (.gave (.line .log line) :: es) = line :: logLines es := rfl

@[simp] theorem logLines_error (text : String) (es : List (Event τ)) :
    logLines (.gave (.line .error text) :: es) = logLines es := rfl

@[simp] theorem logLines_lines (lines : List String) :
    logLines (lines.map fun line => (.gave (.line .log line) : Event τ)) = lines := by
  induction lines with
  | nil => rfl
  | cons line lines ih => rw [List.map_cons, logLines_line, ih]

/-- The lines that an event carries to one who follows the log of the batch at an address: those of a
good page. -/
def carriedLines (url : String) : Event τ → List String
  | .answered r a => if r.url = url then [] else ((pageIn? r a).map LogPage.lines).getD []
  | _ => []

/-- Which event may come directly after which. -/
inductive MayFollow (url : String) (pause : τ) : Event τ → Event τ → Prop where
  | report {r : Request} {a : Answer} {text : String} :
      report? url r a = some text →
      MayFollow url pause (.answered r a) (.gave (.line .error text))
  | firstLine {start : Nat} {a : Answer} {page : LogPage} {line : String} :
      pageIn? (pageRequest url start) a = some page → page.lines ≠ [] →
      MayFollow url pause (.answered (pageRequest url start) a) (.gave (.line .log line))
  | nextLine {line line' : String} :
      MayFollow url pause (.gave (.line .log line)) (.gave (.line .log line'))
  | nextPage {line : String} {start : Nat} {a : Answer} :
      MayFollow url pause (.gave (.line .log line)) (.answered (pageRequest url start) a)
  | probe {start : Nat} {a a' : Answer} {page : LogPage} :
      pageIn? (pageRequest url start) a = some page → page.lines = [] →
      MayFollow url pause (.answered (pageRequest url start) a) (.answered (.get url) a')
  | wait {a : Answer} :
      SaysSubmitting url a → MayFollow url pause (.answered (.get url) a) (.paused pause)
  | samePage {start : Nat} {a : Answer} :
      MayFollow url pause (.paused pause) (.answered (pageRequest url start) a)

/-- The last event of a followed log that has come to its end. -/
def IsFinal (url : String) (e : Event τ) : Prop :=
  (∃ text, e = .gave (.line .error text)) ∨
    ∃ a, e = .answered (.get url) a ∧ report? url (.get url) a = none ∧ ¬ SaysSubmitting url a

/-- The last event of a round after which there is another one. -/
def IsOpen (pause : τ) (e : Event τ) : Prop :=
  e = .paused pause ∨ ∃ line, e = .gave (.line .log line)

/-- How events of a followed log are linked: each may follow the one before, and the first asks for a
page. -/
structure Linked (url : String) (pause : τ) (es : List (Event τ)) : Prop where
  chain : es.IsChain (MayFollow url pause)
  first : ∀ e ∈ es.head?, ∃ start a, e = .answered (pageRequest url start) a

/-- Each page is asked for at the number of lines given before, of which there are `given` at first. -/
def AskedInOrder (url : String) : Nat → List (Event τ) → Prop
  | _, [] => True
  | given, e :: es =>
    (∀ r a, e = .answered r a → r = .get url ∨ r = pageRequest url given) ∧
      AskedInOrder url (given + (logLines [e]).length) es

variable {url : String} {pause : τ} {start : Nat} {es : List (Event τ)}

theorem askedInOrder_append (given : Nat) (es fs : List (Event τ)) :
    AskedInOrder url given (es ++ fs) ↔
      AskedInOrder url given es ∧ AskedInOrder url (given + (logLines es).length) fs := by
  induction es generalizing given with
  | nil => simp [AskedInOrder, logLines]
  | cons e es ih =>
      have hlines : logLines (e :: es) = logLines [e] ++ logLines es := logLines_append [e] es
      simp only [List.cons_append, AskedInOrder, ih, hlines, List.length_append, Nat.add_assoc,
        and_assoc]

theorem askedInOrder_gave (given : Nat) (lines : List String) :
    AskedInOrder url given (lines.map fun line => (.gave (.line .log line) : Event τ)) := by
  induction lines generalizing given with
  | nil => trivial
  | cons line lines ih => exact ⟨(fun r a h => nomatch h), ih _⟩

theorem pageRequest_ne_get (url : String) (start : Nat) : pageRequest url start ≠ .get url :=
  fun h => pageRequest_url_ne url start (congrArg Request.url h)

theorem report?_of_pageIn {r : Request} {a : Answer} {page : LogPage}
    (h : pageIn? r a = some page) : report? url r a = none := by
  cases a with
  | reply code body contentType =>
      have hok : (Reply.mk r.url code body contentType).ok = true := by
        cases hok : (Reply.mk r.url code body contentType).ok with
        | true => rfl
        | false => simp [pageIn?, Answer.goodReply?, Answer.outcome, hok] at h
      simp [report?, hok]
  | broken message => cases h
  | stop e => rfl

theorem report?_of_saysSubmitting {a : Answer} (h : SaysSubmitting url a) :
    report? url (.get url) a = none := by
  obtain ⟨found, -, -, -, hgood, -⟩ := h
  cases a with
  | reply code body contentType => simp [report?, Request.get]
  | broken message => cases hgood
  | stop e => rfl

@[simp] theorem carriedLines_status (a : Answer) :
    carriedLines url (.answered (.get url) a : Event τ) = [] := if_pos rfl

@[simp] theorem carriedLines_page (start : Nat) (a : Answer) :
    carriedLines url (.answered (pageRequest url start) a : Event τ) =
      ((pageIn? (pageRequest url start) a).map LogPage.lines).getD [] :=
  if_neg (pageRequest_url_ne url start)

@[simp] theorem carriedLines_paused (amount : τ) :
    carriedLines url (.paused amount) = [] := rfl

@[simp] theorem carriedLines_gave (item : Item) :
    carriedLines url (.gave item : Event τ) = [] := rfl

theorem chain_gave (lines : List String) :
    (lines.map fun line => (.gave (.line .log line) : Event τ)).IsChain (MayFollow url pause) := by
  induction lines with
  | nil => exact .nil
  | cons line lines ih =>
      cases lines with
      | nil => exact .singleton _
      | cons line' lines => exact List.isChain_cons_cons.2 ⟨.nextLine, ih⟩

/-- After a page with lines these are given; then another page is asked for, unless the rounds are spent. -/
def GivesPages (url : String) (spent : Prop) (es : List (Event τ)) : Prop :=
  ∀ pre start a page post, es = pre ++ .answered (pageRequest url start) a :: post →
    pageIn? (pageRequest url start) a = some page → page.lines ≠ [] →
    ∃ rest, post = page.lines.map (fun line => .gave (.line .log line)) ++ rest ∧
      ((rest = [] ∧ spent) ∨ ∃ next a' rest', rest = .answered (pageRequest url next) a' :: rest')

/-- What a round gives and asks for, and how it ends. -/
structure RoundLaws (url : String) (pause : τ) (start : Nat) (es : List (Event τ))
    (r : Except Stop (Round Nat Unit)) : Prop where
  linked : Linked url pause es
  lines : logLines es = es.flatMap (carriedLines url)
  inOrder : AskedInOrder url start es
  page : ∃ a others, es = .answered (pageRequest url start) a :: others ∧
    (∀ next a', .answered (pageRequest url next) a' ∉ others) ∧
    ∀ page, pageIn? (pageRequest url start) a = some page → page.lines ≠ [] →
      others = page.lines.map (fun line => .gave (.line .log line)) ∧ ∃ next, r = .ok (.again next)
  last : ∃ e ∈ es.getLast?,
    (r = .ok (.done ()) ∧ IsFinal url e) ∨
      (r = .ok (.again (start + (logLines es).length)) ∧ IsOpen pause e)

/-- An answer carries one page at most. -/
theorem lineless_of_pageIn {q : Request} {a : Answer} {page page' : LogPage} (h : pageIn? q a = some page)
    (hempty : page.lines = []) (h' : pageIn? q a = some page') : page'.lines = [] := by
  obtain rfl := Option.some.inj (h.symm.trans h')
  exact hempty

theorem PageRound.laws {r : Except Stop (Round Nat Unit)} (h : PageRound url pause start es r) :
    RoundLaws url pause start es r := by
  have hother (next : Nat) : pageRequest url next ≠ .get url := pageRequest_ne_get url next
  -- one case for each way in which a round goes: only one of them gives lines
  cases h with
  | @reported a text hreport =>
      have hnone : pageIn? (pageRequest url start) a = none := by
        cases hpage : pageIn? (pageRequest url start) a with
        | none => rfl
        | some page =>
            rw [report?_of_pageIn hpage] at hreport
            cases hreport
      constructor
      · exact ⟨List.isChain_pair.2 (.report hreport), by simp⟩
      · simp [hnone]
      · simp [AskedInOrder]
      · refine ⟨a, _, rfl, by simp, fun page hpage => ?_⟩
        rw [hnone] at hpage
        cases hpage
      · exact ⟨_, rfl, .inl ⟨rfl, .inl ⟨text, rfl⟩⟩⟩
  | @lines a page hpage hne =>
      constructor
      · refine ⟨?_, by simp⟩
        obtain ⟨line, lines, hlines⟩ := List.exists_cons_of_ne_nil hne
        rw [hlines]
        exact List.isChain_cons_cons.2 ⟨.firstLine hpage hne, chain_gave (line :: lines)⟩
      · simp [hpage, List.flatMap_map]
      · refine ⟨?_, askedInOrder_gave _ _⟩
        rintro r a' ⟨⟩
        exact .inr rfl
      · refine ⟨a, _, rfl, by simp, fun page' hpage' _ => ?_⟩
        obtain rfl := Option.some.inj (hpage.symm.trans hpage')
        exact ⟨rfl, _, rfl⟩
      · refine ⟨.gave (.line .log (page.lines.getLast hne)), ?_, .inr ⟨by simp, .inr ⟨_, rfl⟩⟩⟩
        rw [List.getLast?_cons, List.getLast?_map, List.getLast?_eq_some_getLast hne]
        rfl
  | @ended a a' page hpage hempty hreport hnot =>
      constructor
      · exact ⟨List.isChain_pair.2 (.probe hpage hempty), by simp⟩
      · simp [hpage, hempty]
      · simp [AskedInOrder]
      · refine ⟨a, _, rfl, by simp [hother], fun page' hpage' hne => ?_⟩
        exact absurd (lineless_of_pageIn hpage hempty hpage') hne
      · exact ⟨_, rfl, .inl ⟨rfl, .inr ⟨a', rfl, hreport, hnot⟩⟩⟩
  | @lost a a' page text hpage hempty hreport =>
      constructor
      · refine ⟨List.isChain_cons_cons.2 ⟨.probe hpage hempty, ?_⟩, by simp⟩
        exact List.isChain_pair.2 (.report hreport)
      · simp [hpage, hempty]
      · simp [AskedInOrder]
      · refine ⟨a, _, rfl, by simp [hother], fun page' hpage' hne => ?_⟩
        exact absurd (lineless_of_pageIn hpage hempty hpage') hne
      · exact ⟨_, rfl, .inl ⟨rfl, .inl ⟨text, rfl⟩⟩⟩
  | @waited a a' page hpage hempty hsubmitting =>
      constructor
      · refine ⟨List.isChain_cons_cons.2 ⟨.probe hpage hempty, ?_⟩, by simp⟩
        exact List.isChain_pair.2 (.wait hsubmitting)
      · simp [hpage, hempty]
      · simp [AskedInOrder]
      · refine ⟨a, _, rfl, by simp [hother], fun page' hpage' hne => ?_⟩
        exact absurd (lineless_of_pageIn hpage hempty hpage') hne
      · exact ⟨_, rfl, .inr ⟨rfl, .inl rfl⟩⟩

/-- What a whole course gives and asks for, and how it ends. -/
structure CourseLaws (url : String) (pause : τ) (start : Nat) (es : List (Event τ))
    (r : Except Stop Unit) : Prop where
  linked : Linked url pause es
  lines : logLines es = es.flatMap (carriedLines url)
  inOrder : AskedInOrder url start es
  pages : GivesPages url (r = .error .spent) es
  outcome : (r = .ok () ∧ es ≠ []) ∨ r = .error .spent
  last : ∀ e ∈ es.getLast?, IsFinal url e ∨ (IsOpen pause e ∧ r = .error .spent)

/-- Rounds of which the first leaves room for another one. -/
theorem Linked.append {es fs : List (Event τ)} {e : Event τ} (hes : Linked url pause es)
    (hlast : e ∈ es.getLast?) (hopen : IsOpen pause e) (hfs : Linked url pause fs) :
    Linked url pause (es ++ fs) := by
  constructor
  · refine List.isChain_append.2 ⟨hes.chain, hfs.chain, ?_⟩
    intro x hx y hy
    obtain rfl := Option.some.inj (hlast.symm.trans hx)
    obtain ⟨start, a, rfl⟩ := hfs.first y hy
    rcases hopen with rfl | ⟨line, rfl⟩
    · exact .samePage
    · exact .nextPage
  · intro x hx
    refine hes.first x ?_
    cases es with
    | nil => cases hlast
    | cons e' es => exact hx

/-- The lines of the page of a round are given before the rounds that follow. -/
theorem RoundLaws.givesPages {es fs : List (Event τ)} {spent : Prop} {r : Except Stop (Round Nat Unit)}
    (h : RoundLaws url pause start es r) (hfs : GivesPages url spent fs)
    (hfirst : ∀ e ∈ fs.head?, ∃ next a, e = .answered (pageRequest url next) a)
    (hspent : ∀ next, r = .ok (.again next) → fs = [] → spent) : GivesPages url spent (es ++ fs) := by
  intro pre first a page post hes hpage hne
  obtain ⟨a', others, rfl, hothers, hlines⟩ := h.page
  -- the page is that of this round, which comes first, or belongs to a later round
  cases pre with
  | nil =>
      obtain ⟨hevent, rfl⟩ := List.cons.inj hes
      injection hevent with hrequest hanswer
      subst hanswer
      rw [← hrequest] at hpage
      obtain ⟨rfl, next, hnext⟩ := hlines page hpage hne
      refine ⟨fs, rfl, ?_⟩
      cases fs with
      | nil => exact .inl ⟨rfl, hspent next hnext rfl⟩
      | cons e fs =>
          obtain ⟨next', a'', rfl⟩ := hfirst e rfl
          exact .inr ⟨next', a'', fs, rfl⟩
  | cons x pre =>
      have hsplit : others ++ fs = pre ++ .answered (pageRequest url first) a :: post :=
        (List.cons.inj hes).2
      rcases List.append_eq_append_iff.1 hsplit with ⟨mid, -, hrest⟩ | ⟨mid, rfl, hrest⟩
      · exact hfs mid first a page post hrest hpage hne
      · cases mid with
        | nil => exact hfs [] first a page post hrest.symm hpage hne
        | cons e mid =>
            obtain ⟨rfl, -⟩ := List.cons.inj hrest
            exact absurd (List.mem_append_right _ List.mem_cons_self) (hothers first a)

theorem givesPages_nil {spent : Prop} : GivesPages url spent ([] : List (Event τ)) := by
  intro pre first a page post hes
  simp at hes

theorem rounds_laws {r : Except Stop Unit} (h : Rounds (PageRound url pause) start es r) :
    CourseLaws url pause start es r := by
  induction h with
  | spent start =>
      exact ⟨⟨.nil, fun e he => nomatch he⟩, rfl, trivial, givesPages_nil, .inr rfl,
        fun e he => nomatch he⟩
  | stopped hround =>
      obtain ⟨e, -, ⟨hr, -⟩ | ⟨hr, -⟩⟩ := hround.laws.last
      · cases hr
      · cases hr
  | @done start es b hround =>
      have hgives : GivesPages url ((.ok b : Except Stop Unit) = .error .spent) (es ++ []) :=
        hround.laws.givesPages givesPages_nil (fun e he => nomatch he) fun next hnext => nomatch hnext
      rw [List.append_nil] at hgives
      obtain ⟨hlinked, hlines, hinOrder, -, e, hlast, ⟨-, hfinal⟩ | ⟨hr, -⟩⟩ := hround.laws
      · refine ⟨hlinked, hlines, hinOrder, hgives, .inl ⟨rfl, ?_⟩, ?_⟩
        · rintro rfl
          cases hlast
        intro e' he'
        obtain rfl := Option.some.inj (hlast.symm.trans he')
        exact .inl hfinal
      · cases hr
  | @again start start' es fs r hround hrest ih =>
      have hgives := hround.laws.givesPages ih.pages ih.linked.first fun next _ hnil =>
        ih.outcome.resolve_left fun h => h.2 hnil
      obtain ⟨hlinked, hlines, hinOrder, -, e, hlast, ⟨hr, -⟩ | ⟨hr, hopen⟩⟩ := hround.laws
      · cases hr
      · cases hr
        refine ⟨hlinked.append hlast hopen ih.linked, ?_, ?_, hgives, ?_, ?_⟩
        · rw [logLines_append, List.flatMap_append, hlines, ih.lines]
        · exact (askedInOrder_append start es fs).2 ⟨hinOrder, ih.inOrder⟩
        · exact ih.outcome.imp_left fun h => ⟨h.1, by simp [h.2]⟩
        · intro e' he'
          rw [List.getLast?_append] at he'
          cases hfs : fs.getLast? with
          | some x =>
              rw [hfs] at he'
              exact ih.last e' (hfs.trans he')
          | none =>
              rw [hfs, Option.none_or] at he'
              obtain rfl := Option.some.inj (hlast.symm.trans he')
              -- only if no round is left do the rounds that follow make no step
              rcases ih.outcome with ⟨-, hne⟩ | hspent
              · exact absurd (List.getLast?_eq_none_iff.1 hfs) hne
              · exact .inr ⟨hopen, hspent⟩

/-- What comes directly before an event of a course. -/
theorem Linked.before (h : Linked url pause es) {pre post : List (Event τ)} {e : Event τ}
    (hes : es = pre ++ e :: post) :
    (∃ start a, e = .answered (pageRequest url start) a) ∨
      ∃ pre' x, pre = pre' ++ [x] ∧ MayFollow url pause x e := by
  subst hes
  rcases List.eq_nil_or_concat pre with rfl | ⟨pre', x, rfl⟩
  · exact .inl (h.first e rfl)
  · refine .inr ⟨pre', x, List.concat_eq_append, ?_⟩
    have hchain := h.chain
    rw [List.concat_eq_append, List.append_assoc] at hchain
    exact (List.isChain_append_cons_cons.1 hchain).2.1

/-- What comes directly after an event of a course. -/
theorem Linked.after (h : Linked url pause es) {pre post : List (Event τ)} {e : Event τ}
    (hes : es = pre ++ e :: post) :
    (post = [] ∧ e ∈ es.getLast?) ∨
      ∃ x post', post = x :: post' ∧ MayFollow url pause e x := by
  subst hes
  cases post with
  | nil => exact .inl ⟨rfl, by simp⟩
  | cons x post' =>
      exact .inr ⟨x, post', rfl, (List.isChain_append_cons_cons.1 h.chain).2.1⟩

theorem AskedInOrder.split {given : Nat} {pre post : List (Event τ)} {r : Request} {a : Answer}
    (h : AskedInOrder url given (pre ++ .answered r a :: post)) :
    r = .get url ∨ r = pageRequest url (given + (logLines pre).length) :=
  ((askedInOrder_append given pre _).1 h).2.1 r a rfl

theorem MayFollow.before_report {x e : Event τ} {text : String} (h : MayFollow url pause x e)
    (he : e = .gave (.line .error text)) :
    ∃ r a, x = .answered r a ∧ report? url r a = some text := by
  cases h with
  | @report r a text' hreport =>
      obtain rfl : text' = text := by simpa using he
      exact ⟨r, a, rfl, hreport⟩
  | _ => simp at he

theorem MayFollow.before_look {x e : Event τ} {a : Answer} (h : MayFollow url pause x e)
    (he : e = .answered (.get url) a) :
    ∃ start a' page, x = .answered (pageRequest url start) a' ∧
      pageIn? (pageRequest url start) a' = some page ∧ page.lines = [] := by
  cases h with
  | @probe start a' _ page hpage hempty => exact ⟨start, a', page, rfl, hpage, hempty⟩
  | nextPage | samePage =>
      injection he with hr
      exact absurd hr (pageRequest_ne_get url _)
  | _ => cases he

theorem MayFollow.before_pause {x e : Event τ} {amount : τ} (h : MayFollow url pause x e)
    (he : e = .paused amount) :
    amount = pause ∧ ∃ a, x = .answered (.get url) a ∧ SaysSubmitting url a := by
  cases h with
  | @wait a hsubmitting =>
      injection he with hamount
      exact ⟨hamount.symm, a, rfl, hsubmitting⟩
  | _ => cases he

theorem MayFollow.after_report {x e : Event τ} {text : String} (h : MayFollow url pause x e)
    (hx : x = .gave (.line .error text)) : False := by
  cases h with
  | _ => simp at hx

theorem MayFollow.after_failure {x e : Event τ} {r : Request} {a : Answer} {text : String}
    (h : MayFollow url pause x e) (hx : x = .answered r a) (hreport : report? url r a = some text) :
    e = .gave (.line .error text) := by
  cases h with
  | @report r' a' text' hreport' =>
      injection hx with hr ha
      subst hr ha
      rw [hreport, Option.some.injEq] at hreport'
      rw [hreport']
  | firstLine hpage _ | probe hpage _ =>
      injection hx with hr ha
      subst hr ha
      rw [report?_of_pageIn hpage] at hreport
      cases hreport
  | wait hsubmitting =>
      injection hx with hr ha
      subst hr ha
      rw [report?_of_saysSubmitting hsubmitting] at hreport
      cases hreport
  | _ => cases hx

theorem MayFollow.after_emptyPage {x e : Event τ} {start : Nat} {a : Answer} {page : LogPage}
    (h : MayFollow url pause x e) (hx : x = .answered (pageRequest url start) a)
    (hpage : pageIn? (pageRequest url start) a = some page) (hempty : page.lines = []) :
    ∃ a', e = .answered (.get url) a' := by
  cases h with
  | report hreport =>
      injection hx with hr ha
      subst hr ha
      rw [report?_of_pageIn hpage] at hreport
      cases hreport
  | firstLine hpage' hne =>
      injection hx with hr ha
      rw [hr, ha, hpage, Option.some.injEq] at hpage'
      exact absurd hempty (hpage' ▸ hne)
  | @probe _ _ a' => exact ⟨a', rfl⟩
  | wait _ =>
      injection hx with hr ha
      exact absurd hr.symm (pageRequest_ne_get url start)
  | _ => cases hx

theorem MayFollow.after_look {x e : Event τ} {a : Answer} (h : MayFollow url pause x e)
    (hx : x = .answered (.get url) a) :
    (SaysSubmitting url a ∧ e = .paused pause) ∨
      ∃ text, report? url (.get url) a = some text ∧ e = .gave (.line .error text) := by
  cases h with
  | @report r a' text hreport =>
      injection hx with hr ha
      subst hr ha
      exact .inr ⟨text, hreport, rfl⟩
  | firstLine _ _ | probe _ _ =>
      injection hx with hr ha
      exact absurd hr (pageRequest_ne_get url _)
  | wait hsubmitting =>
      injection hx with hr ha
      subst ha
      exact .inl ⟨hsubmitting, rfl⟩
  | _ => cases hx

theorem MayFollow.after_pause {x e : Event τ} {amount : τ} (h : MayFollow url pause x e)
    (hx : x = .paused amount) :
    ∃ start a, e = .answered (pageRequest url start) a := by
  cases h with
  | @samePage start a => exact ⟨start, a, rfl⟩
  | _ => cases hx

/-- The laws of a log that is followed, for the events of the whole course and whether it has come to its
end. -/
structure FollowedLog (url : String) (pause : τ) (ended : Prop) (es : List (Event τ)) : Prop where
  /-- The first page is asked for at once. -/
  first : (es = [] ∧ ¬ ended) ∨ ∃ a rest, es = .answered (pageRequest url 0) a :: rest
  /-- A request is for the batch or for the page that starts at the number of lines given before. -/
  offsets : ∀ pre r a post, es = pre ++ .answered r a :: post →
    r = .get url ∨ r = pageRequest url (logLines pre).length
  /-- The lines given are those of the good pages, in order. -/
  lines : logLines es = es.flatMap (carriedLines url)
  /-- After a page with lines these are given, and then the page behind them is asked for. -/
  afterLines : ∀ pre start a page post, es = pre ++ .answered (pageRequest url start) a :: post →
    pageIn? (pageRequest url start) a = some page → page.lines ≠ [] →
    ∃ rest, post = page.lines.map (fun line => .gave (.line .log line)) ++ rest ∧
      ((rest = [] ∧ ¬ ended) ∨ ∃ a' rest', rest =
        .answered (pageRequest url ((logLines pre).length + page.lines.length)) a' :: rest')
  /-- A report is the last event, and is about the answer just before it. -/
  reports : ∀ pre text post, es = pre ++ .gave (.line .error text) :: post →
    post = [] ∧ ∃ pre' r a, pre = pre' ++ [.answered r a] ∧ report? url r a = some text
  /-- A failed request is reported. -/
  reported : ∀ pre r a post text, es = pre ++ .answered r a :: post → report? url r a = some text →
    post = [.gave (.line .error text)]
  /-- The batch is looked at only after an empty page. -/
  looks : ∀ pre a post, es = pre ++ .answered (.get url) a :: post →
    ∃ pre' start a' page, pre = pre' ++ [.answered (pageRequest url start) a'] ∧
      pageIn? (pageRequest url start) a' = some page ∧ page.lines = []
  /-- After an empty page the batch is looked at once; then there is a pause and the same page is asked
  for again, or the course ends. -/
  afterEmpty : ∀ pre start a page post, es = pre ++ .answered (pageRequest url start) a :: post →
    pageIn? (pageRequest url start) a = some page → page.lines = [] →
    ∃ a' post', post = .answered (.get url) a' :: post' ∧
      (SaysSubmitting url a' → ∃ post'', post' = .paused pause :: post'' ∧
        ((post'' = [] ∧ ¬ ended) ∨
          ∃ a'' rest, post'' = .answered (pageRequest url start) a'' :: rest)) ∧
      (¬ SaysSubmitting url a' → post' = [] ∨ ∃ text, post' = [.gave (.line .error text)])
  /-- There is no other pause. -/
  pauses : ∀ pre amount post, es = pre ++ .paused amount :: post →
    amount = pause ∧ ∃ pre' a, pre = pre' ++ [.answered (.get url) a] ∧ SaysSubmitting url a

namespace CourseLaws

variable {r : Except Stop Unit}

theorem not_last_emptyPage (h : CourseLaws url pause start es r) {first : Nat} {a : Answer} :
    .answered (pageRequest url first) a ∉ es.getLast? := by
  intro hlast
  rcases h.last _ hlast with (⟨text, he⟩ | ⟨a', he, -⟩) | ⟨he | ⟨line, he⟩, -⟩
  · cases he
  · injection he with hr
    exact pageRequest_ne_get url first hr
  · cases he
  · cases he

theorem last_look (h : CourseLaws url pause start es r) {a : Answer}
    (hlast : .answered (.get url) a ∈ es.getLast?) :
    report? url (.get url) a = none ∧ ¬ SaysSubmitting url a := by
  rcases h.last _ hlast with (⟨text, he⟩ | ⟨a', he, hreport, hnot⟩) | ⟨he | ⟨line, he⟩, -⟩
  · cases he
  · injection he with _ ha
    subst ha
    exact ⟨hreport, hnot⟩
  · cases he
  · cases he

theorem last_pause (h : CourseLaws url pause start es r) {amount : τ}
    (hlast : .paused amount ∈ es.getLast?) : r = .error .spent := by
  rcases h.last _ hlast with (⟨text, he⟩ | ⟨a', he, -⟩) | ⟨-, hr⟩
  · cases he
  · cases he
  · exact hr

theorem report_last (h : CourseLaws url pause start es r) {pre post : List (Event τ)} {text : String}
    (hes : es = pre ++ .gave (.line .error text) :: post) : post = [] := by
  rcases h.linked.after hes with ⟨hpost, -⟩ | ⟨x, post', -, hx⟩
  · exact hpost
  · exact (hx.after_report rfl).elim

theorem failure_reported (h : CourseLaws url pause start es r) {pre post : List (Event τ)}
    {q : Request} {a : Answer} {text : String} (hes : es = pre ++ .answered q a :: post)
    (hreport : report? url q a = some text) : post = [.gave (.line .error text)] := by
  rcases h.linked.after hes with ⟨rfl, hlast⟩ | ⟨x, post', rfl, hx⟩
  · rcases h.last _ hlast with (⟨text', he⟩ | ⟨a', he, hnone, -⟩) | ⟨he | ⟨line, he⟩, -⟩
    · cases he
    · injection he with hq ha
      subst hq ha
      rw [hnone] at hreport
      cases hreport
    · cases he
    · cases he
  · obtain rfl := hx.after_failure rfl hreport
    have hsplit : es = (pre ++ [.answered q a]) ++ .gave (.line .error text) :: post' := by
      rw [hes, List.append_assoc]
      rfl
    rw [h.report_last hsplit]

/-- After a look at a batch that has not run yet there is a pause and then the page that was asked for
before. -/
theorem after_submitting (h : CourseLaws url pause 0 es r) {pre post : List (Event τ)} {first : Nat}
    {a a' : Answer}
    (hes : es = pre ++ .answered (pageRequest url first) a :: .answered (.get url) a' :: post)
    (hsubmitting : SaysSubmitting url a') :
    ∃ rest, post = .paused pause :: rest ∧
      ((rest = [] ∧ r = .error .spent) ∨
        ∃ a'' rest', rest = .answered (pageRequest url first) a'' :: rest') := by
  have hlook : es = (pre ++ [.answered (pageRequest url first) a]) ++
      .answered (.get url) a' :: post := by
    rw [hes, List.append_assoc]
    rfl
  rcases h.linked.after hlook with ⟨-, hlast⟩ | ⟨x, rest, rfl, hx⟩
  · exact absurd hsubmitting (h.last_look hlast).2
  rcases hx.after_look rfl with ⟨-, rfl⟩ | ⟨text, hreport, -⟩
  · refine ⟨rest, rfl, ?_⟩
    have hpause : es = (pre ++ [.answered (pageRequest url first) a, .answered (.get url) a']) ++
        .paused pause :: rest := by
      rw [hes, List.append_assoc]
      rfl
    rcases h.linked.after hpause with ⟨rfl, hlast⟩ | ⟨y, rest', rfl, hy⟩
    · exact .inl ⟨rfl, h.last_pause hlast⟩
    · obtain ⟨again, a'', rfl⟩ := hy.after_pause rfl
      have hpage : es = (pre ++ [.answered (pageRequest url first) a, .answered (.get url) a',
          .paused pause]) ++ .answered (pageRequest url again) a'' :: rest' := by
        rw [hes, List.append_assoc]
        rfl
      -- no line was given between the two requests, so they ask for one page
      have hfirst := (hes ▸ h.inOrder).split.resolve_left (pageRequest_ne_get url first)
      have hagain := (hpage ▸ h.inOrder).split.resolve_left (pageRequest_ne_get url again)
      rw [logLines_append, logLines_answered, logLines_answered, logLines_paused, logLines_nil,
        List.append_nil, ← hfirst] at hagain
      exact .inr ⟨a'', rest', by rw [hagain]⟩
  · rw [report?_of_saysSubmitting hsubmitting] at hreport
    cases hreport

/-- After a look at a batch that has run, or of which nothing is known, the course ends. -/
theorem after_other_look (h : CourseLaws url pause start es r) {pre post : List (Event τ)}
    {a : Answer} (hes : es = pre ++ .answered (.get url) a :: post) (hnot : ¬ SaysSubmitting url a) :
    post = [] ∨ ∃ text, post = [.gave (.line .error text)] := by
  rcases h.linked.after hes with ⟨hpost, -⟩ | ⟨x, post', rfl, hx⟩
  · exact .inl hpost
  · rcases hx.after_look rfl with ⟨hsubmitting, -⟩ | ⟨text, hreport, -⟩
    · exact absurd hsubmitting hnot
    · exact .inr ⟨text, h.failure_reported hes hreport⟩

theorem first_page (h : CourseLaws url pause 0 es r) :
    (es = [] ∧ r ≠ .ok ()) ∨ ∃ a rest, es = .answered (pageRequest url 0) a :: rest := by
  cases hes : es with
  | nil =>
      refine .inl ⟨rfl, fun hr => ?_⟩
      rcases h.outcome with ⟨-, hne⟩ | hspent
      · exact hne hes
      · exact nomatch hr.symm.trans hspent
  | cons e rest =>
      obtain ⟨first, a, rfl⟩ := h.linked.first e (by rw [hes]; rfl)
      have hsplit : es = [] ++ .answered (pageRequest url first) a :: rest := hes
      have hrequest := (hsplit ▸ h.inOrder).split.resolve_left (pageRequest_ne_get url first)
      exact .inr ⟨a, rest, by rw [hrequest]; rfl⟩

/-- The page that is asked for after a page with lines begins behind these. -/
theorem after_lines (h : CourseLaws url pause 0 es r) {pre post : List (Event τ)} {first : Nat}
    {a : Answer} {page : LogPage} (hes : es = pre ++ .answered (pageRequest url first) a :: post)
    (hpage : pageIn? (pageRequest url first) a = some page) (hne : page.lines ≠ []) :
    ∃ rest, post = page.lines.map (fun line => .gave (.line .log line)) ++ rest ∧
      ((rest = [] ∧ r ≠ .ok ()) ∨ ∃ a' rest', rest =
        .answered (pageRequest url ((logLines pre).length + page.lines.length)) a' :: rest') := by
  obtain ⟨rest, rfl, ⟨hnil, hspent⟩ | ⟨next, a', rest', rfl⟩⟩ :=
    h.pages pre first a page post hes hpage hne
  · refine ⟨rest, rfl, .inl ⟨hnil, fun hr => nomatch hr.symm.trans hspent⟩⟩
  · refine ⟨_, rfl, .inr ⟨a', rest', ?_⟩⟩
    have hsplit : es = (pre ++ .answered (pageRequest url first) a ::
        page.lines.map fun line => .gave (.line .log line)) ++
          .answered (pageRequest url next) a' :: rest' := by
      rw [hes, List.append_assoc, List.cons_append]
    have hrequest := (hsplit ▸ h.inOrder).split.resolve_left (pageRequest_ne_get url next)
    rw [hrequest, logLines_append, logLines_answered, logLines_lines, List.length_append, Nat.zero_add]

theorem followedLog (h : CourseLaws url pause 0 es r) : FollowedLog url pause (r = .ok ()) es := by
  constructor
  · exact h.first_page
  · intro pre q a post hes
    have hsplit := (hes ▸ h.inOrder).split
    rwa [Nat.zero_add] at hsplit
  · exact h.lines
  · intro pre first a page post hes hpage hne
    exact h.after_lines hes hpage hne
  · intro pre text post hes
    refine ⟨h.report_last hes, ?_⟩
    rcases h.linked.before hes with ⟨first, a, he⟩ | ⟨pre', x, hpre, hx⟩
    · cases he
    · obtain ⟨q, a, rfl, hreport⟩ := hx.before_report rfl
      exact ⟨pre', q, a, hpre, hreport⟩
  · intro pre q a post text hes hreport
    exact h.failure_reported hes hreport
  · intro pre a post hes
    rcases h.linked.before hes with ⟨first, a', he⟩ | ⟨pre', x, hpre, hx⟩
    · injection he with hr
      exact absurd hr.symm (pageRequest_ne_get url first)
    · obtain ⟨first, a', page, rfl, hpage, hempty⟩ := hx.before_look rfl
      exact ⟨pre', first, a', page, hpre, hpage, hempty⟩
  · intro pre first a page post hes hpage hempty
    rcases h.linked.after hes with ⟨-, hlast⟩ | ⟨x, rest, rfl, hx⟩
    · exact absurd hlast h.not_last_emptyPage
    · obtain ⟨a', rfl⟩ := hx.after_emptyPage rfl hpage hempty
      refine ⟨a', rest, rfl, ?_, ?_⟩
      · intro hsubmitting
        obtain ⟨rest', hpost, hrest⟩ := h.after_submitting hes hsubmitting
        refine ⟨rest', hpost, hrest.imp_left fun hend => ⟨hend.1, ?_⟩⟩
        rw [hend.2]
        exact fun hr => nomatch hr
      · intro hnot
        have hlook : es = (pre ++ [.answered (pageRequest url first) a]) ++
            .answered (.get url) a' :: rest := by
          rw [hes, List.append_assoc]
          rfl
        exact h.after_other_look hlook hnot
  · intro pre amount post hes
    rcases h.linked.before hes with ⟨first, a', he⟩ | ⟨pre', x, hpre, hx⟩
    · cases he
    · obtain ⟨hamount, a, rfl, hsubmitting⟩ := hx.before_pause rfl
      exact ⟨hamount, pre', a, hpre, hsubmitting⟩

end CourseLaws

/-- A server at which the batch 7 has no log at first and waits to be run; then there are two lines, and
then the log is gone. -/
def lateLogServer : Surroundings Number where
  answer t r :=
    if r.url = "http://livy:8998/batches/7" then
      .reply 200 (some "\x7b\"id\": 7, \"state\": \"starting\"\x7d") none
    else if t.requests.length = 0 then .reply 200 (some "\x7b\x7d") none
    else if t.requests.length = 2 then .reply 200 (some "\x7b\"log\": [\"a\", \"b\"]\x7d") none
    else .reply 404 none none
  page _ _ := .stop .cancelled
  halt _ := none
  confirms _ := false
  picks _ := []
  turn _ := 0
  waits := true
  connects := true
  patience := 9

theorem lateLogServer_fair : FairTo lateLogServer "http://livy:8998/batches/7" := by
  constructor
  · intro t
    rfl
  · intro t start e
    simp only [lateLogServer, pageRequest_url_ne, if_false]
    split
    · exact fun h => nomatch h
    · split <;> exact fun h => nomatch h
  · intro t e
    exact fun h => nomatch h
  · intro t start found hgood
    simp only [lateLogServer, pageRequest_url_ne, if_false] at hgood
    split at hgood
    · obtain rfl := Option.some.inj hgood
      have hsame : (Json.parse? "\x7b\x7d").any (Json.same (.obj [])) = true := by
        decide +kernel
      exact ⟨_, LogPage.ofReply_of_document (Reply.document_of_same hsame) rfl rfl⟩
    · split at hgood
      · obtain rfl := Option.some.inj hgood
        have hsame : (Json.parse? "\x7b\"log\": [\"a\", \"b\"]\x7d").any
            (Json.same (.obj [("log", .arr [.str "a", .str "b"])])) = true := by
          decide +kernel
        exact ⟨_, LogPage.ofReply_of_document (Reply.document_of_same hsame) rfl rfl⟩
      · cases hgood
  · intro t found hgood
    obtain rfl := Option.some.inj hgood
    have hnumbers : Reply.Numbers
        ⟨"http://livy:8998/batches/7", 200,
          some "\x7b\"id\": 7, \"state\": \"starting\"\x7d", none⟩
        [("id", .int 7), ("state", .str "starting")] 7 :=
      ⟨Reply.document_of_same (by decide +kernel), rfl⟩
    refine ⟨_, Snapshot.ofReply_of_numbers hnumbers, ?_⟩
    intro word hword
    obtain rfl := Option.some.inj hword
    exact ⟨.starting, State.parse_word .starting⟩

end Batch

end SparkGateway
