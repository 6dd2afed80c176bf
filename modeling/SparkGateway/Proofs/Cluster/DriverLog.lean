import SparkGateway.Proofs.Cluster.Spelled
import SparkGateway.Proofs.Url.Climbing

/-!
# The log of a driver

The link of an attempt to its logs leads to a node of the cluster.  Its address is to go through the
resource manager: below the root stands the host that the link names, and behind it the path of the link.

The address stays on the site of the gateway whatever the link is.  But a link without a host is given the
word `None` for one, and a path with more steps up than names leaves the host, or the root as well.  What
the path of the address is, is told by `LogTold`; the address is as promised exactly if the host is still
there when its dots are resolved (`driverLogUrl_promised_iff`).
-/

namespace SparkGateway.Cluster

open Url

variable {τ : Type} {gateway root link : String} {g u : Url} {names : List (List Char)} {a : Attempt}

/-- The host that is put below the root for a link. -/
def hostOf (u : Url) : List Char := u.host?.getD "None".toList

/-- What is put below the root for a link. -/
def logLink (c : Cluster τ) (u : Url) : List Char := c.root.toList ++ '/' :: (hostOf u ++ u.path)

/-- There is no address, or one on the site of the gateway whose path begins with the root and with the
host that the link names. -/
def LogPromised (c : Cluster τ) (a : Attempt) (u : Url) : Prop :=
  ∃ result, c.driverLogUrl a = .ok result ∧ (result = none ∨
    ∃ url v host, result = some url ∧ SameSite c.gateway url ∧ parse? url.toList = some v ∧
      u.host? = some host ∧ c.root.toList ++ '/' :: host <+: v.path)

theorem hostOf_plain (hread : parse? link.toList = some u) :
    hostOf u ≠ [] ∧ ∀ c ∈ hostOf u, isAuthorityChar c = true := by
  unfold hostOf
  cases hhost : u.host? with
  | none => exact ⟨by decide, List.all_eq_true.1 rfl⟩
  | some host => exact (host?_plain (parts_of_parseFrom? hread).authority hhost).2

theorem below_isPathChar (hread : parse? link.toList = some u) :
    ∀ c ∈ hostOf u ++ u.path, isPathChar c = true := by
  intro c hc
  rcases List.mem_append.1 hc with hc | hc
  · exact isPathChar_of_isAuthorityChar ((hostOf_plain hread).2 c hc)
  · exact (parts_of_parseFrom? hread).path c hc

theorem driverLogUrl_of_empty (c : Cluster τ) (hlink : a.logsLink = .str "") :
    c.driverLogUrl a = .ok none := by
  unfold driverLogUrl
  rw [hlink]
  rfl

theorem root_on (hroot : RootOf root.toList names) (settle : τ) :
    (on gateway root settle).root.toList = rootPath names := by
  rw [on, String.toList_ofList, rootOf_of_names hroot]

theorem root_host (hroot : RootOf root.toList names) (settle : τ) (host : List Char) :
    (on gateway root settle).root.toList ++ '/' :: host = rootPath (names ++ [host]) := by
  rw [root_on hroot, rootPath_append]
  simp [rootPath]

/-- A link leads to the place below the root of its host and its path. -/
theorem driverLogUrl_of_link (settle : τ) (hgateway : parse? gateway.toList = some g)
    (hweb : isWeb g.scheme = true) (hroot : RootOf root.toList names)
    (hlink : a.logsLink = .str link) (hne : link ≠ "") (hread : parse? link.toList = some u) :
    (on gateway root settle).driverLogUrl a =
      .ok (some (String.ofList
        (g.onSite (landing g.scheme (logLink (on gateway root settle) u))))) := by
  obtain ⟨hhost, hchars⟩ := hostOf_plain hread
  obtain ⟨path, hpath⟩ : ∃ path, s!"{String.ofList (hostOf u)}{String.ofList u.path}" = path := ⟨_, rfl⟩
  have htext : path.toList = hostOf u ++ u.path := by
    rw [← hpath]
    simp [ToString.toString]
  have hpathChars : ∀ c ∈ path.toList, isPathChar c = true := htext ▸ below_isPathChar hread
  have hbelow : path.toList.dropWhile (· == '/') = hostOf u ++ u.path := by
    obtain ⟨c, cs, hcons⟩ := List.exists_cons_of_ne_nil hhost
    have hc := hchars c (hcons ▸ List.mem_cons_self)
    rw [htext, hcons]
    refine List.dropWhile_cons_of_neg fun hslash => ?_
    rw [eq_of_beq hslash] at hc
    cases hc
  have haddress := address_of_names settle hgateway hweb hroot hpathChars hbelow
  have hgiven : (Json.str link).given = true := by simpa [Json.given] using hne
  rw [← hpath] at haddress
  unfold driverLogUrl
  rw [hlink, logLink, root_on hroot]
  simp only [hgiven, linkText, Bool.not_true, Bool.false_eq_true, if_false, bind, Except.bind, hread]
  exact congrArg (fun r => r >>= fun url => Except.ok (some url)) haddress

/-- The address is read back as the site of the gateway and the place where the link leads. -/
theorem parse?_driverLogUrl (settle : τ) (hgateway : parse? gateway.toList = some g)
    (hweb : isWeb g.scheme = true) (hroot : RootOf root.toList names)
    (hread : parse? link.toList = some u) :
    parse? (g.onSite (landing g.scheme (logLink (on gateway root settle) u))) =
      some ⟨g.scheme, g.authority, landing g.scheme (logLink (on gateway root settle) u), [], []⟩ := by
  refine parse?_onSite hweb (parts_of_parseFrom? hgateway) (fun c hc => ?_) fun c hc => fromRoot_head hc
  rcases mem_of_mem_landing hc with hc | rfl | rfl
  · rw [logLink, root_on hroot] at hc
    rcases List.mem_append.1 hc with hc | hc
    · exact hroot.isPathChar c hc
    · rcases List.mem_cons.1 hc with rfl | hc
      · rfl
      · exact below_isPathChar hread c hc
  · rfl
  · rfl

/-- The segments of a path behind its first slash. -/
def stepsOf (scheme path : List Char) : List (List Char) :=
  (segments (cutParameters scheme path).1).tail

/-- Below the root stand the host and the segments of the path of the link. -/
theorem segments_logLink {host : List Char} (settle : τ) (hweb : isWeb g.scheme = true)
    (hroot : RootOf root.toList names) (hread : parse? link.toList = some u) (hhost : u.host? = some host)
    (hword : IsWord host) :
    segments (cutParameters g.scheme (logLink (on gateway root settle) u)).1 =
      ([] :: (names ++ [host])) ++ stepsOf g.scheme u.path := by
  have hparts := parts_of_parseFrom? hread
  have hslashes : ∀ name ∈ names ++ [host], '/' ∉ name := by
    intro name hname
    rcases List.mem_append.1 hname with hname | hname
    · exact (hroot.words name hname).2.slash_notMem
    · exact List.mem_singleton.1 hname ▸ hword.slash_notMem
  have hlogLink : logLink (on gateway root settle) u = rootPath (names ++ [host]) ++ u.path := by
    rw [logLink, root_on hroot, hostOf, hhost, rootPath_append]
    simp [rootPath]
  rw [hlogLink]
  cases hpath : u.path with
  | nil =>
      have hcut : cutParameters g.scheme (rootPath (names ++ [host]) ++ []) =
          (rootPath (names ++ [host]), []) := by
        have hlast : rootPath [host] = '/' :: host := by simp [rootPath]
        rw [List.append_nil, rootPath_append, hlast, cutParameters_slash hweb hword.slash_notMem,
          cutSemicolon_of_notMem hword.semicolon_notMem]
      have hsteps : stepsOf g.scheme [] = [] := by
        unfold stepsOf cutParameters
        split <;> rfl
      rw [hcut, hsteps, List.append_nil, segments_rootPath hslashes]
  | cons c path =>
      obtain rfl := hparts.rooted (host?_plain hparts.authority hhost).1 c (by rw [hpath]; rfl)
      obtain ⟨rest, hrest⟩ := cutParameters_of_slash path hweb
      have hsteps : stepsOf g.scheme ('/' :: path) = segments rest := by
        unfold stepsOf
        rw [hrest]
        exact congrArg List.tail (segments_slash [] rest)
      rw [cutParameters_append _ hweb List.mem_cons_self, hrest, hsteps, segments_slash,
        segments_rootPath hslashes]

/-- What becomes of the link of an attempt to its logs. -/
structure LogTold (c : Cluster τ) (a : Attempt) (link : String) (g u : Url) : Prop where
  unlinked : link = "" → c.driverLogUrl a = .ok none
  linked : link ≠ "" → c.driverLogUrl a =
    .ok (some (String.ofList (g.onSite (landing g.scheme (logLink c u)))))
  promised_iff : LogPromised c a u ↔ link = "" ∨
    ∃ host, u.host? = some host ∧ c.root.toList ++ '/' :: host <+: landing g.scheme (logLink c u)
  /-- A path that never goes up past its beginning stays below the host. -/
  below : ∀ host, u.host? = some host → IsWord host → StaysBelow 0 (stepsOf g.scheme u.path) →
    LogPromised c a u
  /-- A path that does leaves it, unless it names the host again. -/
  above : ∀ host, u.host? = some host → IsWord host → LogPromised c a u →
    StaysBelow 0 (stepsOf g.scheme u.path) ∨ ∃ step ∈ stepsOf g.scheme u.path, host <+: step
  /-- Without dots and semicolons the address holds the host and the path as they are. -/
  spelled : link ≠ "" → ';' ∉ hostOf u ++ u.path → (∀ step ∈ segments (hostOf u ++ u.path), IsName step) →
    c.driverLogUrl a = .ok (some (String.ofList (g.onSite (logLink c u))))

theorem host?_of_empty (hread : parse? "".toList = some u) : u.host? = none := by
  obtain rfl := Option.some.inj (hread.symm.trans rfl)
  rfl

/-- The address is as promised exactly if the link is empty, or names a host and leads below it. -/
theorem logPromised_iff (settle : τ) (hgateway : parse? gateway.toList = some g)
    (hweb : isWeb g.scheme = true) (hroot : RootOf root.toList names)
    (hlink : a.logsLink = .str link) (hread : parse? link.toList = some u) :
    LogPromised (on gateway root settle) a u ↔ link = "" ∨
      ∃ host, u.host? = some host ∧ (on gateway root settle).root.toList ++ '/' :: host <+:
        landing g.scheme (logLink (on gateway root settle) u) := by
  have hback := parse?_driverLogUrl settle hgateway hweb hroot hread
  by_cases hne : link = ""
  · subst hne
    exact iff_of_true ⟨none, driverLogUrl_of_empty _ hlink, .inl rfl⟩ (.inl rfl)
  · have hlinked := driverLogUrl_of_link settle hgateway hweb hroot hlink hne hread
    constructor
    · rintro ⟨result, hresult, hend⟩
      obtain rfl := Except.ok.inj (hlinked.symm.trans hresult)
      rcases hend with hnone | ⟨url, v, host, hurl, -, hv, hhost, hbegins⟩
      · cases hnone
      · obtain rfl := Option.some.inj hurl
        rw [String.toList_ofList, hback] at hv
        obtain rfl := Option.some.inj hv
        exact .inr ⟨host, hhost, hbegins⟩
    · rintro (hnil | ⟨host, hhost, hbegins⟩)
      · exact absurd hnil hne
      · rw [← String.toList_ofList (l := g.onSite _)] at hback
        exact ⟨_, hlinked, .inr ⟨_, _, host, rfl,
          ⟨g.scheme, g.authority, ⟨g, hgateway, rfl, rfl⟩, ⟨_, hback, rfl, rfl⟩⟩, hback, hhost, hbegins⟩⟩

/-- Without dots and semicolons a link leads to what is put below the root for it. -/
theorem landing_logLink (settle : τ) (hweb : isWeb g.scheme = true) (hroot : RootOf root.toList names)
    (hsemicolon : ';' ∉ hostOf u ++ u.path) (hnames : ∀ step ∈ segments (hostOf u ++ u.path), IsName step) :
    landing g.scheme (logLink (on gateway root settle) u) = logLink (on gateway root settle) u := by
  have hslash : ∀ name ∈ names, '/' ∉ name := fun name hname => (hroot.words name hname).2.slash_notMem
  have hsegments : segments (logLink (on gateway root settle) u) =
      ([] :: names) ++ segments (hostOf u ++ u.path) := by
    rw [logLink, root_on hroot, segments_slash, segments_rootPath hslash]
  have hplain : ';' ∉ logLink (on gateway root settle) u := by
    rw [logLink, root_on hroot]
    intro hmem
    rcases List.mem_append.1 hmem with hmem | hmem
    · exact hroot.semicolon_notMem hmem
    · exact hsemicolon ((List.mem_cons.1 hmem).resolve_left (by decide))
  obtain ⟨name, rest, rfl⟩ := List.exists_cons_of_ne_nil hroot.some
  have hcons : ∃ tail, logLink (on gateway root settle) u = '/' :: tail := by
    rw [logLink, root_on hroot]
    exact ⟨_, rfl⟩
  obtain ⟨tail, htail⟩ := hcons
  rw [htail] at hsegments hplain ⊢
  refine landing_plain hweb (fun hmem => hplain (List.mem_cons_of_mem _ hmem)) ?_
  rw [hsegments]
  intro step hstep
  rcases List.mem_append.1 hstep with hstep | hstep
  · rcases List.mem_cons.1 hstep with rfl | hname
    · exact ⟨by simp, by simp⟩
    · exact (hroot.words step hname).2.name
  · exact hnames step hstep

/-- Whatever the link of an attempt is, the address of its log is on the site of the gateway, and is as
promised exactly if the link is empty, or names a host that is still there when dots are resolved. -/
theorem driverLogUrl_promised_iff (settle : τ) (hgateway : parse? gateway.toList = some g)
    (hweb : isWeb g.scheme = true) (hroot : RootOf root.toList names)
    (hlink : a.logsLink = .str link) (hread : parse? link.toList = some u) :
    LogTold (on gateway root settle) a link g u := by
  have hpromised := logPromised_iff settle hgateway hweb hroot hlink hread
  have hlinked (hne : link ≠ "") :=
    driverLogUrl_of_link settle hgateway hweb hroot hlink hne hread
  have hwords {host : List Char} (hhost : u.host? = some host) (hword : IsWord host) :
      ∀ name ∈ names ++ [host], name ≠ [] ∧ IsWord name := by
    intro name hname
    rcases List.mem_append.1 hname with hname | hname
    · exact hroot.words name hname
    · rw [List.mem_singleton.1 hname]
      exact ⟨(host?_plain (parts_of_parseFrom? hread).authority hhost).2.1, hword⟩
  refine ⟨?_, hlinked, hpromised, ?_, ?_, ?_⟩
  · rintro rfl
    exact driverLogUrl_of_empty _ hlink
  · intro host hhost hword hsteps
    refine hpromised.2 (.inr ⟨host, hhost, ?_⟩)
    rw [root_host hroot]
    exact below_landing (segments_logLink settle hweb hroot hread hhost hword)
      (fun name hname => (hwords hhost hword name hname).2.name) (by simp) hsteps
  · intro host hhost hword hpromise
    rcases hpromised.1 hpromise with rfl | ⟨host', hhost', hbegins⟩
    · rw [host?_of_empty hread] at hhost
      cases hhost
    · obtain rfl := Option.some.inj (hhost.symm.trans hhost')
      by_cases hsteps : StaysBelow 0 (stepsOf g.scheme u.path)
      · exact .inl hsteps
      · rw [root_host hroot] at hbegins
        refine .inr (above_landing (segments_logLink settle hweb hroot hread hhost hword)
          (fun name hname => ?_) hroot.some hsteps hbegins)
        obtain ⟨hne, hname⟩ := hwords hhost hword name hname
        exact ⟨hname.name, hne, hname.semicolon_notMem⟩
  · intro hne hsemicolon hnames
    rw [hlinked hne, landing_logLink settle hweb hroot hsemicolon hnames]

theorem rootOf_defaultRoot : RootOf defaultRoot.toList ["yarnui".toList] := by
  refine ⟨by decide, fun name hname => ?_, 1, 0, rfl⟩
  obtain rfl := List.mem_singleton.1 hname
  exact ⟨by decide, isWord_of_isWordChar (List.all_eq_true.1 rfl)⟩

theorem driverLogUrl_promised_of_containerLog :
    let c : Cluster Nat := on "http://livy:8998/batches" defaultRoot 3
    let a : Attempt := ⟨1, "appattempt_1", .str "http://WN0.cluster:30060/node/logs/./x/../livy", .null, .null⟩
    let g : Url := ⟨"http".toList, "livy:8998".toList, "/batches".toList, [], []⟩
    let u : Url := ⟨"http".toList, "WN0.cluster:30060".toList, "/node/logs/./x/../livy".toList, [], []⟩
    LogTold c a "http://WN0.cluster:30060/node/logs/./x/../livy" g u ∧
      u.host? = some "wn0.cluster".toList ∧ LogPromised c a u ∧
      c.driverLogUrl a = .ok (some "http://livy:8998/yarnui/wn0.cluster/node/logs/livy") := by
  intro c a g u
  have htold : LogTold c a "http://WN0.cluster:30060/node/logs/./x/../livy" g u :=
    driverLogUrl_promised_iff 3 rfl (by decide) rootOf_defaultRoot rfl rfl
  have hhost : u.host? = some "wn0.cluster".toList := by decide
  refine ⟨htold, hhost, htold.promised_iff.2 (.inr ⟨_, hhost, by decide⟩), by decide⟩

/-- A link without a host yields the address of a host that does not exist, and two steps up leave the
root. -/
theorem driverLogUrl_not_promised :
    let c : Cluster Nat := on "http://livy:8998/batches" defaultRoot 3
    let unplaced : Attempt := ⟨1, "appattempt_1", .str "/node/containerlogs/container_1/livy", .null, .null⟩
    let climbing : Attempt := ⟨1, "appattempt_1", .str "http://wn0/../../livy", .null, .null⟩
    let u : Url := ⟨[], [], "/node/containerlogs/container_1/livy".toList, [], []⟩
    let v : Url := ⟨"http".toList, "wn0".toList, "/../../livy".toList, [], []⟩
    (parse? "/node/containerlogs/container_1/livy".toList = some u ∧ ¬ LogPromised c unplaced u ∧
      c.driverLogUrl unplaced =
        .ok (some "http://livy:8998/yarnui/None/node/containerlogs/container_1/livy")) ∧
    parse? "http://wn0/../../livy".toList = some v ∧ ¬ LogPromised c climbing v ∧
      c.driverLogUrl climbing = .ok (some "http://livy:8998/livy") := by
  intro c unplaced climbing u v
  have hgateway : parse? "http://livy:8998/batches".toList =
      some ⟨"http".toList, "livy:8998".toList, "/batches".toList, [], []⟩ := rfl
  have hunplaced : ¬ LogPromised c unplaced u := by
    rw [logPromised_iff 3 hgateway (by decide) rootOf_defaultRoot rfl rfl]
    rintro (hempty | ⟨host, hhost, -⟩)
    · exact absurd hempty (by decide)
    · cases hhost
  have hclimbing : ¬ LogPromised c climbing v := by
    rw [logPromised_iff 3 hgateway (by decide) rootOf_defaultRoot rfl rfl]
    rintro (hempty | ⟨host, hhost, hbegins⟩)
    · exact absurd hempty (by decide)
    · obtain rfl : "wn0".toList = host := Option.some.inj hhost
      exact absurd hbegins (by decide)
  exact ⟨⟨rfl, hunplaced, by decide⟩, rfl, hclimbing, by decide⟩

end SparkGateway.Cluster
