import Mathlib.Data.List.DropRight
import SparkGateway.Cluster.Basic
import SparkGateway.Proofs.Url.Site

/-!
# The site of the resource manager

The addresses of the resource manager are links that are read relative to the gateway.  A root with a
name puts a path into the link, so the address stays on the site of the gateway, whatever else the root
holds (`address_namesSite`).  A root of slashes only leaves two slashes at the start of the link, and
the first segment after them is read as an authority (`address_namesSite_of_slashes`).
-/

namespace SparkGateway.Cluster

open Url

variable {τ : Type} {gateway root : String} {scheme authority : List Char}

theorem rootOf_of_slashes {path : List Char} (h : ∀ d ∈ path, d = '/') : rootOf path = ['/'] := by
  have hnil : path.dropWhile (· == '/') = [] := by
    refine List.dropWhile_eq_nil_iff.2 fun d hd => ?_
    simpa using h d hd
  unfold rootOf
  rw [hnil]
  rfl

/-- A root with anything but slashes in it starts with one slash and goes on with something else. -/
theorem rootOf_of_named {path : List Char} (h : ∃ d ∈ path, d ≠ '/') :
    ∃ c rest, rootOf path = '/' :: c :: rest ∧ c ≠ '/' ∧ c ∈ path := by
  obtain ⟨d, hd, hslash⟩ := h
  cases hdrop : path.dropWhile (· == '/') with
  | nil => exact absurd (by simpa using List.dropWhile_eq_nil_iff.1 hdrop d hd) hslash
  | cons c cs =>
      have hc : ¬ (c == '/') = true := by
        have hnot := List.head?_dropWhile_not (· == '/') path
        rw [hdrop] at hnot
        simpa using hnot
      have hprefix : (c :: cs).rdropWhile (· == '/') <+: c :: cs := List.rdropWhile_prefix _ _
      have hne : (c :: cs).rdropWhile (· == '/') ≠ [] := fun hnil =>
        hc (List.rdropWhile_eq_nil_iff.1 hnil c List.mem_cons_self)
      obtain ⟨e, rest, hrest⟩ := List.exists_cons_of_ne_nil hne
      obtain rfl : e = c := by
        rw [hrest] at hprefix
        exact (List.cons_prefix_cons.1 hprefix).1
      refine ⟨e, rest, ?_, by simpa using hc, ?_⟩
      · show '/' :: ((path.dropWhile (· == '/')).rdropWhile (· == '/')) = _
        rw [hdrop, hrest]
      · exact (List.dropWhile_suffix _).subset (hdrop ▸ List.mem_cons_self)

/-- The address of a path below the root is a link that is read relative to the gateway. -/
theorem address_of_join {c : Cluster τ} {path : String} {url : List Char}
    (h : joinChars? c.gateway.toList
      (c.root.toList ++ '/' :: path.toList.dropWhile (· == '/')) = some url) :
    c.address path = .ok (String.ofList url) := by
  have hlink (below : String) : s!"{c.root}/{below}".toList = c.root.toList ++ '/' :: below.toList := by
    simp [ToString.toString]
  unfold address
  simp only [join?, hlink, Text.trimStartWhere, String.toList_ofList, h, Option.map_some]

/-- Below a root with a name of its own every address is on the site of the gateway. -/
theorem address_namesSite (hweb : isWeb scheme = true) (hne : authority ≠ [])
    (hplain : ∀ d ∈ authority, isPlain d = true) (hgateway : NamesSite [] gateway.toList scheme authority)
    (hroot : ∀ d ∈ root.toList, isDropped d = false) (hnamed : ∃ d ∈ root.toList, d ≠ '/')
    (settle : τ) (path : String) :
    ∃ url, (on gateway root settle).address path = .ok url ∧
      NamesSite [] url.toList scheme authority := by
  obtain ⟨c, rest, hrootOf, hslash, hmem⟩ := rootOf_of_named hnamed
  obtain ⟨url, hjoin, hsite⟩ := namesSite_join hweb hgateway
    (namesSite_of_slash scheme (rest ++ '/' :: path.toList.dropWhile (· == '/')) hslash (hroot c hmem))
    (List.cons_ne_nil _ _) (by simpa using hplain) hne
  refine ⟨String.ofList url, address_of_join ?_, by simpa using hsite⟩
  simpa [on, hrootOf] using hjoin

/-- Below a root of slashes only the first segment of a path is taken for an authority. -/
theorem address_namesSite_of_slashes {path : String} {host rest : List Char}
    (hweb : isWeb scheme = true) (hne : authority ≠ [])
    (hgateway : NamesSite [] gateway.toList scheme authority) (hslashes : ∀ d ∈ root.toList, d = '/')
    (hpath : path.toList = host ++ '/' :: rest) (hhost : host ≠ [])
    (hplain : ∀ d ∈ host, isPlain d = true) (settle : τ) :
    ∃ url, (on gateway root settle).address path = .ok url ∧ NamesSite [] url.toList scheme host := by
  have hdrop : path.toList.dropWhile (· == '/') = host ++ '/' :: rest := by
    obtain ⟨d, ds, rfl⟩ := List.exists_cons_of_ne_nil hhost
    rw [hpath]
    refine List.dropWhile_cons_of_neg fun hd => ?_
    have hslash := hplain d List.mem_cons_self
    rw [eq_of_beq hd] at hslash
    exact absurd hslash (by decide)
  obtain ⟨url, hjoin, hsite⟩ := namesSite_join hweb hgateway
    (namesSite_of_slashes scheme hplain (follows_slash rest)) (List.cons_ne_nil _ _)
    (by simpa [hhost] using hplain) hne
  rw [if_neg hhost] at hsite
  refine ⟨String.ofList url, address_of_join ?_, by simpa using hsite⟩
  simpa [on, rootOf_of_slashes hslashes, hdrop] using hjoin

/-- A scheme, an authority and a path name a site. -/
theorem namesSite_gateway {scheme authority : String} (path : String)
    (hweb : isWeb scheme.toList = true) (hplain : ∀ d ∈ authority.toList, isPlain d = true) :
    NamesSite [] s!"{scheme}://{authority}/{path}".toList scheme.toList authority.toList := by
  have hsite := namesSite_placed [] hweb hplain (follows_slash path.toList)
  simpa [ToString.toString] using hsite

/-- Requests to the resource manager stay on the site of the gateway exactly if its root is more than
slashes.  Below a root of slashes only, the first segment of the path is taken for an authority. -/
theorem addresses_sameSite_iff {scheme authority root : String} (path application attempt : String)
    (settle : τ) (hweb : isWeb scheme.toList = true) (hne : authority ≠ "")
    (hplain : ∀ d ∈ authority.toList, isPlain d = true)
    (hroot : ∀ d ∈ root.toList, isDropped d = false) :
    let c := on s!"{scheme}://{authority}/{path}" root settle
    ∃ u v w, c.applicationUrl application = .ok u ∧ c.attemptsUrl application = .ok v ∧
      c.attemptPageUrl attempt = .ok w ∧
      ((SameSite c.gateway u ∧ SameSite c.gateway v ∧ SameSite c.gateway w) ↔
        ∃ d ∈ root.toList, d ≠ '/') ∧
      ((∀ d ∈ root.toList, d = '/') →
        NamesSite [] u.toList scheme.toList "ws".toList ∧
        NamesSite [] v.toList scheme.toList "ws".toList ∧
        NamesSite [] w.toList scheme.toList "hn".toList) := by
  intro c
  have hgateway := namesSite_gateway path hweb hplain
  have hnonempty : authority.toList ≠ [] := by simpa using hne
  by_cases hnamed : ∃ d ∈ root.toList, d ≠ '/'
  · obtain ⟨u, hu, hsiteu⟩ := address_namesSite hweb hnonempty hplain hgateway hroot hnamed settle
      s!"ws/v1/cluster/apps/{application}"
    obtain ⟨v, hv, hsitev⟩ := address_namesSite hweb hnonempty hplain hgateway hroot hnamed settle
      s!"ws/v1/cluster/apps/{application}/appattempts"
    obtain ⟨w, hw, hsitew⟩ := address_namesSite hweb hnonempty hplain hgateway hroot hnamed settle
      s!"hn/cluster/appattempt/{attempt}"
    refine ⟨u, v, w, hu, hv, hw, iff_of_true ?_ hnamed, ?_⟩
    · exact ⟨⟨_, _, hgateway, hsiteu⟩, ⟨_, _, hgateway, hsitev⟩, ⟨_, _, hgateway, hsitew⟩⟩
    · intro hslashes
      obtain ⟨d, hd, hslash⟩ := hnamed
      exact absurd (hslashes d hd) hslash
  · have hslashes : ∀ d ∈ root.toList, d = '/' := by
      intro d hd
      by_contra hslash
      exact hnamed ⟨d, hd, hslash⟩
    have hoff (host p rest : String) (hpath : p.toList = host.toList ++ '/' :: rest.toList)
        (hhost : host.toList ≠ []) (hplain : ∀ d ∈ host.toList, isPlain d = true) :=
      address_namesSite_of_slashes hweb hnonempty hgateway hslashes hpath hhost hplain settle
    obtain ⟨u, hu, hsiteu⟩ := hoff "ws" s!"ws/v1/cluster/apps/{application}"
      s!"v1/cluster/apps/{application}" (by simp [ToString.toString]) (by decide) (List.all_eq_true.1 rfl)
    obtain ⟨v, hv, hsitev⟩ := hoff "ws" s!"ws/v1/cluster/apps/{application}/appattempts"
      s!"v1/cluster/apps/{application}/appattempts" (by simp [ToString.toString])
      (by decide) (List.all_eq_true.1 rfl)
    obtain ⟨w, hw, hsitew⟩ := hoff "hn" s!"hn/cluster/appattempt/{attempt}"
      s!"cluster/appattempt/{attempt}" (by simp [ToString.toString]) (by decide) (List.all_eq_true.1 rfl)
    refine ⟨u, v, w, hu, hv, hw, iff_of_false ?_ hnamed, fun _ => ⟨hsiteu, hsitev, hsitew⟩⟩
    rintro ⟨hsame, -, hsame'⟩
    have hws := ((hsame.namesSite hgateway).unique hsiteu).2
    have hhn := ((hsame'.namesSite hgateway).unique hsitew).2
    exact absurd (hws.symm.trans hhn) (by decide)

theorem addresses_sameSite_iff_of_named :
    let c : Cluster Nat := on "https://gw.example.com:8443/livy/batches" "//yarnui/" 3
    (isWeb "https".toList = true ∧ "gw.example.com:8443" ≠ "" ∧
      (∀ d ∈ "gw.example.com:8443".toList, isPlain d = true) ∧
      ∀ d ∈ "//yarnui/".toList, isDropped d = false) ∧
    ∃ u v w, c.applicationUrl "application_1_0001" = .ok u ∧
      c.attemptsUrl "application_1_0001" = .ok v ∧
      c.attemptPageUrl "appattempt_1_0001_000005" = .ok w ∧
      SameSite c.gateway u ∧ SameSite c.gateway v ∧ SameSite c.gateway w := by
  intro c
  have hweb : isWeb "https".toList = true := by decide
  have hne : "gw.example.com:8443" ≠ "" := by decide
  have hplain : ∀ d ∈ "gw.example.com:8443".toList, isPlain d = true := List.all_eq_true.1 rfl
  have hroot : ∀ d ∈ "//yarnui/".toList, isDropped d = false := by simp [isDropped]
  obtain ⟨u, v, w, hu, hv, hw, hsame, -⟩ := addresses_sameSite_iff "livy/batches"
    "application_1_0001" "appattempt_1_0001_000005" 3 hweb hne hplain hroot
  exact ⟨⟨hweb, hne, hplain, hroot⟩, u, v, w, hu, hv, hw, hsame.2 ⟨'y', by decide, by decide⟩⟩

/-- Below a root of one slash the address of an application is on the site `ws`. -/
theorem applicationUrl_offSite :
    let c : Cluster Nat := on "http://livy:8998/batches" "/" 3
    c.applicationUrl "application_1_0001" = .ok "http://ws/v1/cluster/apps/application_1_0001" ∧
      ¬ SameSite c.gateway "http://ws/v1/cluster/apps/application_1_0001" := by
  intro c
  have hgateway : NamesSite [] c.gateway.toList "http".toList "livy:8998".toList :=
    ⟨⟨"http".toList, "livy:8998".toList, "/batches".toList, [], []⟩, by decide +kernel, rfl, rfl⟩
  have hurl : NamesSite [] "http://ws/v1/cluster/apps/application_1_0001".toList "http".toList
      "ws".toList :=
    ⟨⟨"http".toList, "ws".toList, "/v1/cluster/apps/application_1_0001".toList, [], []⟩,
      by decide +kernel, rfl, rfl⟩
  refine ⟨by decide +kernel, fun hsame => ?_⟩
  exact absurd ((hsame.namesSite hgateway).unique hurl).2 (by decide)

end SparkGateway.Cluster
