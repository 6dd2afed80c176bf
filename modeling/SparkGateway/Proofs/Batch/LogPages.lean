import SparkGateway.Exchange.Replies
import SparkGateway.Proofs.Batch.Following

/-!
# Pages of a log that cannot be taken

Whoever asks for a log wants its lines.  A page also says where it starts and how many lines there are,
and neither is looked at.  Yet a page whose start is no whole number does not fit, and the work ends with
that; every other reply is a page or is told to be malformed (`settles_iff`).

So the whole log, and every good page of a log that is followed, is taken or told to be malformed unless
its start is no whole number: the lines of a page are given next, as long as nothing cuts the work
short (`log_taken`).
-/

namespace SparkGateway

open Run

variable {σ τ α β : Type}

/-! ## Where a page starts -/

/-- A value that counts as given and is no whole number, although a whole number is wanted. -/
def Json.Unwhole : Json → Prop
  | .num (.real x) => ∀ negative m e, Decimal.Value.ofFloat x ≠ .finite negative m e
  | .str text => text.isEmpty = false ∧ Numeral.int? text = none
  | .arr items => items.isEmpty = false
  | .obj fields => fields.isEmpty = false
  | .null | .bool _ | .num (.whole _) => False

theorem Json.toWhole_real_error_iff (x : Float) :
    (∃ m, (Json.num (.real x)).toWhole = .error m) ↔ (Json.num (.real x)).Unwhole := by
  unfold toWhole Unwhole
  cases hx : Decimal.Value.ofFloat x with
  | nan => simp [hx]
  | infinite negative => simp [hx]
  | finite negative m e =>
      simp only [hx]
      exact ⟨nofun, fun hnot => absurd rfl (hnot negative m e)⟩

/-- In a place where there may be no value, one is read as a whole number unless it is given and is
none. -/
theorem Json.toWhole_orElse_error_iff (v : Json) :
    (∃ m, (v.orElse (.int 0)).toWhole = .error m) ↔ v.Unwhole := by
  cases hgiven : v.given with
  | true =>
      have helse : v.orElse (.int 0) = v := if_pos hgiven
      rw [helse]
      cases v with
      | null => cases hgiven
      | bool b => simp [toWhole, Unwhole]
      | num n =>
          cases n with
          | whole n => simp [toWhole, Unwhole]
          | real x => exact toWhole_real_error_iff x
      | str text =>
          have hempty : text.isEmpty = false := by simpa [given] using hgiven
          cases hnumeral : Numeral.int? text <;> simp [toWhole, Unwhole, hempty, hnumeral]
      | arr items => simpa [toWhole, Unwhole, given] using hgiven
      | obj fields => simpa [toWhole, Unwhole, given] using hgiven
  | false =>
      have helse : v.orElse (.int 0) = .int 0 := if_neg (Bool.eq_false_iff.1 hgiven)
      rw [helse]
      cases v with
      | num n =>
          cases n with
          | whole n => simp [toWhole_int, Unwhole]
          | real x =>
              -- Zero is finite, and every other fraction counts as given.
              have hzero : (Number.real x).isZero = true := by simpa [given] using hgiven
              unfold Number.isZero Number.value at hzero
              unfold Unwhole
              cases hx : Decimal.Value.ofFloat x <;> simp_all [toWhole_int]
      | str text =>
          have hempty : text.isEmpty = true := by simpa [given] using hgiven
          simp [toWhole_int, Unwhole, hempty]
      | _ => simp_all [toWhole_int, Unwhole, given]

namespace Batch

namespace LogPage

/-- A reply holds lines of a log, and says of their start something that is no whole number. -/
def Misplaced (found : Reply) : Prop :=
  ∃ fields lines, found.document = .ok (.obj fields) ∧
    linesOf? (Json.Fields.get fields "log") = some lines ∧ (Json.Fields.get fields "from").Unwhole

/-- What a page holds and where it starts, once it has fields. -/
def ofFields (r : Reply) (fields : Json.Fields) : Except Stop LogPage :=
  match linesOf? (fields.get "log") with
  | some lines => do
    let offset ← ((fields.get "from").orElse (.int 0)).toWhole.mapError .misfit
    return ⟨offset, lines.map Json.display, fields.get "total"⟩
  | none => throw (.fault (r.malformed "Bad log response"))

theorem ofReply_eq (found : Reply) : ofReply found = (do
    let document ← found.document.mapError .fault
    let fields ← (found.fields "log" document).mapError .fault
    ofFields found fields) := rfl

theorem ofFields_misfit_iff (found : Reply) (fields : Json.Fields) :
    (∃ m, ofFields found fields = .error (.misfit m)) ↔
      ∃ lines, linesOf? (fields.get "log") = some lines ∧ (fields.get "from").Unwhole := by
  unfold ofFields
  rw [← Json.toWhole_orElse_error_iff]
  cases linesOf? (Json.Fields.get fields "log") with
  | none => simp [throw, throwThe, MonadExceptOf.throw]
  | some lines =>
      cases ((Json.Fields.get fields "from").orElse (.int 0)).toWhole with
      | ok offset =>
          constructor
          · rintro ⟨m, hm⟩
            cases hm
          · rintro ⟨lines', -, m, hm⟩
            cases hm
      | error m => exact ⟨fun _ => ⟨lines, rfl, m, rfl⟩, fun _ => ⟨m, rfl⟩⟩

theorem ofReply_misfit_iff (found : Reply) :
    (∃ m, ofReply found = .error (.misfit m)) ↔ Misplaced found := by
  constructor
  · rintro ⟨m, h⟩
    rw [ofReply_eq] at h
    simp only [fault_bind_eq_misfit_iff, Reply.fields_eq_ok_iff] at h
    obtain ⟨_, hdocument, fields, rfl, hfields⟩ := h
    obtain ⟨lines, hlines, hfrom⟩ := (ofFields_misfit_iff found fields).1 ⟨m, hfields⟩
    exact ⟨fields, lines, hdocument, hlines, hfrom⟩
  · rintro ⟨fields, lines, hdocument, hlines, hfrom⟩
    obtain ⟨m, hm⟩ := (ofFields_misfit_iff found fields).2 ⟨lines, hlines, hfrom⟩
    refine ⟨m, ?_⟩
    rw [ofReply_eq]
    simp only [fault_bind_eq_misfit_iff, Reply.fields_eq_ok_iff]
    exact ⟨_, hdocument, fields, rfl, hm⟩

/-- A reply is a page, or it is malformed, or its start does not fit. -/
theorem ofReply_error {found : Reply} {e : Stop} (h : ofReply found = .error e) :
    (∃ message, e = .fault (found.malformed message)) ∨ ∃ m, e = .misfit m := by
  rw [ofReply_eq] at h
  rcases malformed_or_further (fun _ => Reply.document_error) h with hdocument | ⟨document, -, h⟩
  · exact Or.inl hdocument
  rcases malformed_or_further (fun _ => Reply.fields_error) h with hfields | ⟨fields, -, h⟩
  · exact Or.inl hfields
  unfold ofFields at h
  split at h
  · rcases bind_eq_error h with hoffset | ⟨offset, -, hpage⟩
    · obtain ⟨m, -, rfl⟩ := mapError_eq_error hoffset
      exact Or.inr ⟨m, rfl⟩
    · cases hpage
  · exact Or.inl ⟨_, (Except.error.inj h).symm⟩

/-- A reply is a page or told to be malformed, unless it is misplaced.  How many lines it says there are
plays no part. -/
theorem settles_iff (found : Reply) : found.Settles (ofReply found) ↔ ¬ Misplaced found := by
  rw [Reply.settles_iff fun e => ofReply_error, ← ofReply_misfit_iff, not_exists]

end LogPage

variable {env : Surroundings τ} {b : Batch τ} {url : String} {es post : List (Event τ)}

/-! ## The whole log -/

/-- What an answer to the request for the whole log comes to. -/
def wholeLogIn (q : Request) (a : Answer) : Except Stop (List String) :=
  a.outcome q >>= fun found =>
    let code := found.code.repr
    if found.ok then (LogPage.ofReply found).map LogPage.lines
    else .error (.fault (found.malformed s!"Failed to get log (code {code})"))

theorem wholeLogIn_of_goodReply {q : Request} {a : Answer} {found : Reply}
    (h : a.goodReply? q = some found) :
    wholeLogIn q a = (LogPage.ofReply found).map LogPage.lines := by
  obtain ⟨houtcome, hok⟩ := Answer.outcome_of_goodReply h
  unfold wholeLogIn
  rw [houtcome]
  exact if_pos hok

theorem fullLog_reads (hurl : b.batchUrl = .ok url) :
    Does (σ := σ) env b.fullLog (Reads env (logRequest url 0 LogPage.wholeSize)
      (wholeLogIn (logRequest url 0 LogPage.wholeSize))) := by
  unfold fullLog
  rw [logUrl_eq hurl]
  refine (ask_reads (logRequest url 0 LogPage.wholeSize)).reads_bind fun found => ?_
  cases hok : found.ok with
  | false => exact stop_silent _
  | true =>
      refine (ofStop_silent (LogPage.ofReply found)).silent_bind (fun page hpage => ?_) fun e he => ?_
      · simp only [hpage, if_true]
        exact value_silent page.lines
      · simp only [he, if_true]
        exact ⟨rfl, rfl⟩

/-! ## A page of a log that is followed -/

/-- The events of lines of a log that are given. -/
def given (lines : List String) : List (Event τ) := lines.map fun line => .gave (.line .log line)

/-- What becomes of a good reply with a page of a log that is followed, when `post` comes after it and
the work comes to `r`: the lines are given next, or the work is cut short meanwhile, or it ends because
the page could not be read. -/
def Handled (env : Surroundings τ) (found : Reply) (post : List (Event τ)) (r : Except Stop Unit) :
    Prop :=
  match LogPage.ofReply found with
  | .ok page =>
    given page.lines <+: post ∨ post <+: given page.lines ∧ ∃ e, Halts env e ∧ r = .error e
  | .error e => post = [] ∧ r = .error e

/-- Nothing is asked but what the batch at an address is. -/
def OnlyLooks (url : String) (es : List (Event τ)) : Prop := ∀ q a, .answered q a ∈ es → q = .get url

/-- A round of a followed log: a page is asked for, nothing else of the log is, and a good reply is
handled. -/
def PageHandled (env : Surroundings τ) (url : String) (start : Nat) (es : List (Event τ))
    (r : Except Stop (Round Nat Unit)) : Prop :=
  ∃ a post, es = .answered (pageRequest url start) a :: post ∧ OnlyLooks url post ∧
    ∀ found, a.goodReply? (pageRequest url start) = some found →
      Handled env found post (r.map fun _ => ())

theorem giveLines_does (lines : List String) :
    Does (σ := σ) env (giveLines Run.give lines) fun es r =>
      (es = given lines ∧ r = .ok ()) ∨ es <+: given lines ∧ ∃ e, Halts env e ∧ r = .error e := by
  induction lines with
  | nil => exact does_value () (Or.inl ⟨rfl, rfl⟩)
  | cons line lines ih =>
      refine (give_does (.line .log line)).bind ?_ ?_
      · rintro es u ⟨rfl, -⟩
        refine ih.mono ?_
        rintro fs r (⟨rfl, hr⟩ | ⟨hpart, hcut⟩)
        · exact Or.inl ⟨rfl, hr⟩
        · exact Or.inr ⟨List.cons_prefix_cons.2 ⟨rfl, hpart⟩, hcut⟩
      · rintro es e ⟨rfl, hr | hcut⟩
        · cases hr
        · exact Or.inr ⟨List.cons_prefix_cons.2 ⟨rfl, List.nil_prefix⟩, hcut⟩

theorem onlyLooks_gave (item : Item) : OnlyLooks url [(.gave item : Event τ)] :=
  fun _ _ hmem => nomatch List.mem_singleton.1 hmem

theorem onlyLooks_append {es fs : List (Event τ)} (hes : OnlyLooks url es) (hfs : OnlyLooks url fs) :
    OnlyLooks url (es ++ fs) :=
  fun q a hmem => (List.mem_append.1 hmem).elim (hes q a) (hfs q a)

theorem onlyLooks_given (lines : List String) : OnlyLooks url (given lines : List (Event τ)) := by
  intro q a hmem
  obtain ⟨line, -, hline⟩ := List.mem_map.1 hmem
  cases hline

theorem onlyLooks_bind {x : Run σ τ α} {f : α → Run σ τ β}
    (hx : Does env x fun es _ => OnlyLooks url es)
    (hf : ∀ a, Does env (f a) fun es _ => OnlyLooks url es) :
    Does env (x >>= f) fun es _ => OnlyLooks url es :=
  hx.bind (fun _ a hes => (hf a).mono fun _ _ hfs => onlyLooks_append hes hfs) fun _ _ hes => hes

theorem give_onlyLooks (item : Item) :
    Does (σ := σ) env (Run.give item) fun es _ => OnlyLooks url es := by
  refine (give_does item).mono ?_
  rintro es r ⟨rfl, -⟩
  exact onlyLooks_gave item

/-- A round that ends with a report. -/
theorem report_onlyLooks (url text : String) :
    Does (σ := σ) env (do
      Run.give (.line .error text)
      return (.done () : Round Nat Unit)) fun es _ => OnlyLooks url es :=
  onlyLooks_bind (give_onlyLooks _) fun _ => does_value _ nofun

/-- A page that was read is handled by giving its lines. -/
theorem handled_of_page {found : Reply} {page : LogPage} {r : Except Stop Unit}
    (hread : LogPage.ofReply found = .ok page)
    (h : given page.lines <+: post ∨ post <+: given page.lines ∧ ∃ e, Halts env e ∧ r = .error e) :
    Handled env found post r := by
  unfold Handled
  rw [hread]
  exact h

/-- A page that could not be read is handled by ending the work. -/
theorem handled_of_error {found : Reply} {e : Stop} (hread : LogPage.ofReply found = .error e) :
    Handled env found [] (.error e) := by
  unfold Handled
  rw [hread]
  exact ⟨rfl, rfl⟩

/-- Nothing has to become of an answer that is no good reply. -/
theorem pageHandled_of_bad {start : Nat} {a : Answer} {r : Except Stop (Round Nat Unit)}
    (hbad : a.goodReply? (pageRequest url start) = none) (hlooks : OnlyLooks url post) :
    PageHandled env url start (.answered (pageRequest url start) a :: post) r :=
  ⟨a, post, rfl, hlooks, fun _ hgood => nomatch hbad.symm.trans hgood⟩

theorem pageHandled_of_good {start : Nat} {a : Answer} {found : Reply}
    {r : Except Stop (Round Nat Unit)}
    (hgood : a.goodReply? (pageRequest url start) = some found) (hlooks : OnlyLooks url post)
    (hhandled : Handled env found post (r.map fun _ => ())) :
    PageHandled env url start (.answered (pageRequest url start) a :: post) r := by
  refine ⟨a, post, rfl, hlooks, fun found' hgood' => ?_⟩
  obtain rfl := Option.some.inj (hgood.symm.trans hgood')
  exact hhandled

variable [Timeline τ]

theorem afterEmptyPage_onlyLooks (hurl : b.batchUrl = .ok url) (start : Nat) :
    Does (σ := σ) env (b.afterEmptyPage Run.give start) fun es _ => OnlyLooks url es := by
  unfold afterEmptyPage
  refine onlyLooks_bind ((isSubmitting_reads hurl).reachable.mono ?_) fun found => ?_
  · rintro es r ⟨r', ⟨t, rfl, -⟩, -⟩ q a hmem
    exact (Event.answered.inj (List.mem_singleton.1 hmem)).1
  · cases found with
    | error message => exact report_onlyLooks url message
    | ok submitting =>
        cases submitting with
        | false => exact does_value _ nofun
        | true =>
            refine onlyLooks_bind ((sleep_does b.polling.pause).mono ?_) fun _ => does_value _ nofun
            rintro es r ⟨rfl, -⟩ q a hmem
            exact nomatch List.mem_singleton.1 hmem

/-- What is done with a good reply to a request for a page. -/
theorem goodPage_handles (hurl : b.batchUrl = .ok url) {start : Nat} {a : Answer} {found : Reply}
    (hgood : a.goodReply? (pageRequest url start) = some found) :
    Does (σ := σ) env (do
      let page ← Run.ofStop (LogPage.ofReply found)
      giveLines Run.give page.lines
      if page.lines.isEmpty then b.afterEmptyPage Run.give start
      else return .again (start + page.lines.length)) fun fs r =>
        PageHandled env url start (.answered (pageRequest url start) a :: fs) r := by
  refine (ofStop_silent (LogPage.ofReply found)).silent_bind (fun page hread => ?_)
    fun e hread => pageHandled_of_good hgood nofun (handled_of_error hread)
  have hrest : ∀ (gs : List (Event τ)) (r : Except Stop (Round Nat Unit)), OnlyLooks url gs →
      PageHandled env url start (.answered (pageRequest url start) a :: (given page.lines ++ gs)) r :=
    fun gs r hlooks => pageHandled_of_good hgood (onlyLooks_append (onlyLooks_given _) hlooks)
      (handled_of_page hread (Or.inl (List.prefix_append _ gs)))
  refine (giveLines_does page.lines).bind ?_ ?_
  · rintro fs u (⟨rfl, -⟩ | ⟨-, e, -, hr⟩)
    · split
      · exact (afterEmptyPage_onlyLooks hurl start).mono fun gs r hlooks => hrest gs r hlooks
      · exact does_value _ (hrest [] _ nofun)
    · cases hr
  · rintro fs e (⟨-, hr⟩ | ⟨hpart, e', hhalts, he⟩)
    · cases hr
    · obtain rfl := Except.error.inj he
      refine pageHandled_of_good hgood (fun q a hmem => ?_)
        (handled_of_page hread (Or.inr ⟨hpart, e, hhalts, rfl⟩))
      exact onlyLooks_given page.lines q a (hpart.subset hmem)

theorem tailPage_handles (hurl : b.batchUrl = .ok url) (start : Nat) :
    Does (σ := σ) env (b.tailPage Run.give start) (PageHandled env url start) := by
  unfold tailPage
  refine (askPage_reads hurl start).reachable.bind ?_ ?_
  · rintro es found ⟨r, ⟨t, rfl, rfl⟩, hfound⟩
    rcases heard_eq_ok hfound.symm with ⟨reply, rfl, houtcome⟩ | ⟨message, rfl, houtcome⟩
    · cases hok : reply.ok with
      | false =>
          have hbad := Answer.goodReply_eq_none_of_not_ok houtcome hok
          simp only [hok, Bool.not_false, if_true]
          exact (report_onlyLooks url _).mono fun fs r hlooks => pageHandled_of_bad hbad hlooks
      | true =>
          simp only [hok, Bool.not_true, Bool.false_eq_true, if_false]
          exact goodPage_handles hurl (Answer.goodReply_of_outcome houtcome hok)
    · have hbad := Answer.goodReply_eq_none houtcome
      exact (report_onlyLooks url _).mono fun fs r hlooks => pageHandled_of_bad hbad hlooks
  · rintro es e ⟨r, ⟨t, rfl, rfl⟩, he⟩
    exact pageHandled_of_bad (Answer.goodReply_eq_none (heard_eq_error he.symm)) nofun

/-! ## All pages of a log that is followed -/

/-- Whatever is asked, but for what the batch is, is a page of the log, and every good reply is
handled. -/
def AllHandled (env : Surroundings τ) (url : String) (es : List (Event τ)) (r : Except Stop Unit) :
    Prop :=
  ∀ pre q a post, es = pre ++ .answered q a :: post → q ≠ .get url →
    (∃ start, q = pageRequest url start) ∧
      ∀ found, a.goodReply? q = some found → Handled env found post r

omit [Timeline τ] in
theorem PageHandled.all {start : Nat} {r : Except Stop (Round Nat Unit)}
    (h : PageHandled env url start es r) : AllHandled env url es (r.map fun _ => ()) := by
  obtain ⟨a, post, rfl, hlooks, hhandled⟩ := h
  intro pre q a' post' hes hq
  cases pre with
  | nil =>
      obtain ⟨he, rfl⟩ := List.cons.inj hes
      obtain ⟨rfl, rfl⟩ := Event.answered.inj he
      exact ⟨⟨start, rfl⟩, hhandled⟩
  | cons e pre =>
      obtain ⟨-, hpost⟩ := List.cons.inj hes
      exact absurd (hlooks q a' (hpost ▸ List.mem_append_right pre List.mem_cons_self)) hq

omit [Timeline τ] in
/-- If the work has not stopped, the lines are given next, whatever comes after them. -/
theorem Handled.further {found : Reply} (h : Handled env found post (.ok ())) (fs : List (Event τ))
    (r : Except Stop Unit) : Handled env found (post ++ fs) r := by
  unfold Handled at h
  cases hread : LogPage.ofReply found with
  | ok page =>
      rw [hread] at h
      rcases h with hgiven | ⟨-, e, -, hstop⟩
      · exact handled_of_page hread (Or.inl (hgiven.trans (List.prefix_append post fs)))
      · cases hstop
  | error e =>
      rw [hread] at h
      cases h.2

omit [Timeline τ] in
theorem rounds_handled {start : Nat} {r : Except Stop Unit}
    (h : Rounds (PageHandled env url) start es r) : AllHandled env url es r := by
  induction h with
  | spent => exact fun pre q a post hes => nomatch List.append_eq_nil_iff.1 hes.symm
  | stopped hround => exact hround.all
  | done hround => exact hround.all
  | @again start start' es fs r hround hrest ih =>
      intro pre q a post hes hq
      -- The answer stands in the first round, or in one of those after it.
      rcases List.append_eq_append_iff.1 hes with ⟨mid, rfl, hfs⟩ | ⟨mid, rfl, hpost⟩
      · exact ih mid q a post hfs hq
      · cases mid with
        | nil => exact ih [] q a post hpost.symm hq
        | cons e mid =>
            obtain ⟨rfl, rfl⟩ := List.cons.inj hpost
            obtain ⟨hpage, hhandled⟩ := hround.all pre q a mid rfl hq
            exact ⟨hpage, fun found hgood => (hhandled found hgood).further fs r⟩

theorem tail_handles (hurl : b.batchUrl = .ok url) :
    Does (σ := σ) env (b.tail Run.give) (AllHandled env url) :=
  (rounds_does (tailPage_handles hurl) 0).mono fun _ _ => rounds_handled

/-! ## What is taken and what is not -/

/-- A good reply with a page of a log that is followed is taken, when `post` comes after it and the work
comes to `r`: its lines are given next, unless the work is cut short meanwhile, or the reply is told to
be malformed. -/
def Taken (env : Surroundings τ) (found : Reply) (post : List (Event τ)) (r : Except Stop Unit) : Prop :=
  (∃ page, LogPage.ofReply found = .ok page ∧ (given page.lines <+: post ∨
    post <+: given page.lines ∧ ∃ e, Halts env e ∧ r = .error e)) ∨
  post = [] ∧ ∃ message, r = .error (.fault (found.malformed message))

omit [Timeline τ] in
theorem Handled.misplaced {found : Reply} {r : Except Stop Unit} (h : Handled env found post r)
    (hmisplaced : LogPage.Misplaced found) : post = [] ∧ ∃ m, r = .error (.misfit m) := by
  obtain ⟨m, hread⟩ := (LogPage.ofReply_misfit_iff found).2 hmisplaced
  unfold Handled at h
  rw [hread] at h
  exact ⟨h.1, m, h.2⟩

omit [Timeline τ] in
theorem Handled.taken_iff {found : Reply} {r : Except Stop Unit} (h : Handled env found post r) :
    Taken env found post r ↔ ¬ LogPage.Misplaced found := by
  constructor
  · rintro htaken hmisplaced
    obtain ⟨m, hread⟩ := (LogPage.ofReply_misfit_iff found).2 hmisplaced
    obtain ⟨-, m', rfl⟩ := h.misplaced hmisplaced
    rcases htaken with ⟨page, hpage, -⟩ | ⟨-, message, hmalformed⟩
    · exact nomatch hpage.symm.trans hread
    · cases hmalformed
  · intro hfits
    unfold Handled at h
    rcases (LogPage.settles_iff found).2 hfits with ⟨page, hread⟩ | ⟨message, hread⟩
    · rw [hread] at h
      exact Or.inl ⟨page, hread, h⟩
    · rw [hread] at h
      exact Or.inr ⟨h.1, message, h.2⟩

/-- The lines of a log are taken from every good reply, or it is told to be malformed, unless its start
is no whole number: so it is for the reply with the whole log, and for every page of a log that is
followed. -/
structure LogTaken (b : Batch τ) (url : String) (env : Surroundings τ) (w : World σ τ) : Prop where
  read : ∀ found, found.Settles (LogPage.ofReply found) ↔ ¬ LogPage.Misplaced found
  whole : ∃ a, b.fullLog.events env w = [.answered (logRequest url 0 LogPage.wholeSize) a] ∧
    ∀ found, a.goodReply? (logRequest url 0 LogPage.wholeSize) = some found →
      (b.fullLog env w).1 = (LogPage.ofReply found).map LogPage.lines ∧
        (found.Settles (b.fullLog env w).1 ↔ ¬ LogPage.Misplaced found)
  /-- Whatever is asked, but for what the batch is, is a page of the log. -/
  followed : ∀ pre q a post, (b.tail Run.give).events env w = pre ++ .answered q a :: post →
    q ≠ .get url → (∃ start, q = pageRequest url start) ∧ ∀ found, a.goodReply? q = some found →
      (Taken env found post (b.tail Run.give env w).1 ↔ ¬ LogPage.Misplaced found) ∧
        (LogPage.Misplaced found → post = [] ∧ ∃ m, (b.tail Run.give env w).1 = .error (.misfit m))

theorem log_taken (hurl : b.batchUrl = .ok url) (env : Surroundings τ) (w : World σ τ) :
    LogTaken b url env w := by
  refine ⟨LogPage.settles_iff, ?_, ?_⟩
  · obtain ⟨t, hevents, houtcome⟩ := (fullLog_reads hurl).holds w
    refine ⟨_, hevents, fun found hgood => ?_⟩
    rw [wholeLogIn_of_goodReply hgood] at houtcome
    rw [houtcome, Reply.settles_map_iff]
    exact ⟨rfl, LogPage.settles_iff found⟩
  · intro pre q a post hes hq
    obtain ⟨hpage, hhandled⟩ := (tail_handles hurl).holds w pre q a post hes hq
    exact ⟨hpage, fun found hgood => ⟨(hhandled found hgood).taken_iff, (hhandled found hgood).misplaced⟩⟩

/-- A page whose number of lines is no number. -/
def uncountedPage : Answer :=
  .reply 200 (some "\x7b\"log\": [\"a\"], \"from\": \"0\", \"total\": \"many\"\x7d") none

theorem log_taken_of_uncountedPage :
    let b : Batch Number := .attached "http://livy:8998/batches" 7 none ⟨3, .whole 5⟩
    let env : Surroundings Number := Replies.surroundings ⟨[uncountedPage], [], []⟩ 9
    let w : World Unit Number := ⟨(), .whole 0, []⟩
    (b.fullLog env w).1.toOption = some ["a"] ∧ LogTaken b "http://livy:8998/batches/7" env w := by
  intro b env w
  exact ⟨by decide +kernel, log_taken rfl env w⟩

/-- A page whose start is a word. -/
def misplacedPage : Reply :=
  ⟨"http://livy:8998/batches/7/log?from=0&size=128", 200,
    some "\x7b\"log\": [\"a\"], \"from\": \"abc\"\x7d", none⟩

/-- A page whose start is a word is neither read nor told to be malformed, and ends the request for the
whole log as well as a log that is followed. -/
theorem log_not_taken :
    let b : Batch Number := .attached "http://livy:8998/batches" 7 none ⟨3, .whole 5⟩
    let env : Surroundings Number :=
      Replies.surroundings ⟨[.reply 200 misplacedPage.body none], [], []⟩ 9
    let w : World Unit Number := ⟨(), .whole 0, []⟩
    ¬ misplacedPage.Settles (LogPage.ofReply misplacedPage) ∧
      (∃ m, (b.fullLog env w).1 = .error (.misfit m)) ∧
      ∃ m, (b.tail Run.give env w).1 = .error (.misfit m) := by
  intro b env w
  obtain ⟨m, hm⟩ := eq_of_misfits (r := LogPage.ofReply misplacedPage) (by decide +kernel)
  refine ⟨fun hsettles => hsettles.not_misfit m hm, ?_, ?_⟩
  · exact eq_of_misfits (by decide +kernel)
  · exact eq_of_misfits (by decide +kernel)

end Batch

end SparkGateway
