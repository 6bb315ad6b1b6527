import Mathlib.Data.List.TakeWhile
import Provision.Proofs.Page.Script
import Provision.Proofs.Server.Routing

namespace Provision

/-!
# What is found at a path

The page of a configuration is found at the root, at the path that submits, and at one path for
every declared value.  Elsewhere only the embedded files are found, each by its name behind any
number of slashes.  The grammar of names keeps the path of a value apart from the routes and the
files, and free of characters that a request would have to write in another way.
-/

def Configuration.HasPage (c : Configuration) (path : String) : Prop :=
  path = "/" ∨ path = "/submit" ∨ ∃ v ∈ c.values, path = "/" ++ v.name

instance (c : Configuration) (path : String) : Decidable (c.HasPage path) :=
  inferInstanceAs (Decidable (_ ∨ _ ∨ _))

/-! ## Paths in requests -/

namespace Request

theorem isPathChar_of_isAlphanum {c : Char} (h : c.isAlphanum = true) : isPathChar c = true := by
  rw [isPathChar, Bool.and_eq_true, decide_eq_true_eq, decide_eq_true_eq]
  constructor
  · rcases Text.isAlphanum_iff.mp h with ⟨hc, -⟩ | ⟨hc, -⟩ | ⟨hc, -⟩ <;>
      exact Char.le_trans (by decide) hc
  · intro hmem
    simp only [List.mem_cons, List.not_mem_nil, or_false] at hmem
    rcases hmem with rfl | rfl | rfl | rfl | rfl <;> exact absurd h (by decide)

theorem isPathChar_of_name {name : String} (h : Name.InGrammar name) :
    ∀ c ∈ name.toList, isPathChar c = true := by
  intro c hc
  rcases h.forall_mem c hc with hc | rfl | rfl
  · exact isPathChar_of_isAlphanum hc
  · decide
  · decide

theorem pathAndQuery?_of_forall {cs : List Char} (hne : cs ≠ [])
    (h : ∀ c ∈ cs, isPathChar c = true) : pathAndQuery? cs = some (cs, []) := by
  have hfragment : withoutFragment cs = cs := by
    refine List.takeWhile_eq_self_iff.mpr fun c hc => decide_eq_true ?_
    rintro rfl
    exact absurd (h '#' hc) (by decide)
  have hquery : '?' ∉ cs := fun hc => absurd (h '?' hc) (by decide)
  rw [pathAndQuery?, hfragment, Text.cutFirst_eq_none hquery]
  simp [hne, List.all_eq_true.mpr h]

/-- A slash followed by characters of paths is a target, unless it is too long, and is read as it
stands. -/
theorem target?_of_forall {text : String} {rest : List Char} (htext : text.toList = '/' :: rest)
    (h : ∀ c ∈ rest, isPathChar c = true) :
    target? text =
      if longestTarget < text.utf8ByteSize then none else some (text.toList, []) := by
  have hread : pathAndQuery? ('/' :: rest) = some ('/' :: rest, []) :=
    pathAndQuery?_of_forall (List.cons_ne_nil '/' rest)
      (List.forall_mem_cons.mpr ⟨by decide, h⟩)
  rw [target?, htext]
  simp [hread]

end Request

/-! ## The path of a value -/

namespace Name.InGrammar

variable {name : String}

theorem notMem (h : InGrammar name) {c : Char} (hc : isPart c = false) : c ∉ name.toList := by
  intro hmem
  rcases h.forall_mem c hmem with hpart | rfl | rfl
  · simp [isPart, hpart] at hc
  · cases hc
  · cases hc

theorem path_ne (h : InGrammar name) {path : String} {c : Char} (hc : isPart c = false)
    (hpath : c ∈ path.toList.tail) : path ≠ "/" ++ name := by
  rintro rfl
  rw [String.toList_append] at hpath
  exact h.notMem hc hpath

/-- No route lies at the page of a value. -/
theorem route_path_ne (h : InGrammar name) (route : Route) : route.path ≠ "/" ++ name := by
  have hslash : '/' ∈ route.path.toList.tail := by
    cases route <;> decide +kernel
  exact h.path_ne rfl hslash

end Name.InGrammar

namespace Server

/-! ## Embedded files -/

structure Asset where
  name : String
  type : String
  text : String
  deriving DecidableEq, Repr

def Asset.response (a : Asset) : Response := .typed 200 a.type a.text

def shellAsset : Asset := ⟨shellName, "text/html", Page.shell⟩

def assets : List Asset := [shellAsset]

def shellResponse (configuration : String) : Response :=
  .typed 200 "text/html; charset=utf-8" (Page.withConfiguration configuration)

def asset? (path : String) : Option Asset := assets.find? fun a => withoutSlashes path = a.name

variable {path : String}

theorem asset?_eq (path : String) :
    asset? path = if withoutSlashes path = shellName then some shellAsset else none := by
  rw [asset?, assets, List.find?_singleton]
  simp only [decide_eq_true_eq]
  rfl

theorem asset?_eq_some_iff {a : Asset} (ha : a ∈ assets) :
    asset? path = some a ↔ withoutSlashes path = a.name := by
  obtain rfl := List.mem_singleton.mp ha
  rw [asset?_eq, Option.ite_none_right_eq_some]
  exact and_iff_left rfl

theorem asset?_eq_none_iff : asset? path = none ↔ ∀ a ∈ assets, withoutSlashes path ≠ a.name := by
  simp [asset?]

theorem page_eq (s : Server) (path : String) : s.page path =
    if s.isPage path then shellResponse s.configuration
    else match asset? path with
      | some a => a.response
      | none => .error 404 (path ++ " not found") := by
  rw [page, asset?_eq]
  by_cases hname : withoutSlashes path = shellName
  · rw [if_pos hname, if_pos hname]
    rfl
  · rw [if_neg hname, if_neg hname]
    rfl

/-! ## The answers -/

theorem typed_ne_typed {status status' : Nat} {type type' text text' : String}
    (h : status ≠ status' ∨ type ≠ type') :
    Response.typed status type text ≠ .typed status' type' text' := by
  intro heq
  injection heq with hstatus hheaders
  injection hheaders with hheader
  injection hheader with _ htype
  exact h.elim (· hstatus) (· htype)

section

variable {a b : Asset} (ha : a ∈ assets)

include ha

theorem shellResponse_ne_asset (configuration : String) :
    shellResponse configuration ≠ a.response := by
  obtain rfl := List.mem_singleton.mp ha
  exact typed_ne_typed (.inr (by decide))

/-- A file of the page is known by the response. -/
theorem asset_response_inj (hb : b ∈ assets) : a.response = b.response ↔ a = b := by
  obtain rfl := List.mem_singleton.mp ha
  obtain rfl := List.mem_singleton.mp hb
  exact iff_of_true rfl rfl

end

variable {c : Configuration} {p : Pipeline} {interface : String}

theorem isPage_iff : (of c.compile p interface).isPage path = true ↔ c.HasPage path := by
  have hpages : (of c.compile p interface).pages = pagePaths c.values := rfl
  rw [isPage, decide_eq_true_iff, hpages, pagePaths, List.mem_append, List.mem_pair, or_assoc,
    List.mem_map]
  exact or_congr_right (or_congr_right (exists_congr fun v => and_congr_right fun _ => eq_comm))

/-- The page with the configuration and the embedded files differ in their types, and an error in
its status. -/
theorem page_eq_iff (path : String) :
    let response := (of c.compile p interface).page path
    (response = shellResponse c.compile.json.render ↔ c.HasPage path) ∧
    (¬ c.HasPage path → ∀ a ∈ assets, response = a.response ↔ withoutSlashes path = a.name) ∧
    (¬ c.HasPage path → (∀ a ∈ assets, withoutSlashes path ≠ a.name) →
      response = .error 404 (path ++ " not found")) := by
  intro response
  have hresponse : response = _ := page_eq (of c.compile p interface) path
  by_cases hpage : c.HasPage path
  · rw [if_pos (isPage_iff.mpr hpage)] at hresponse
    exact ⟨iff_of_true hresponse hpage, fun h => absurd hpage h, fun h => absurd hpage h⟩
  · rw [if_neg (mt isPage_iff.mp hpage)] at hresponse
    rcases hasset : asset? path with _ | a
    · rw [hasset] at hresponse
      have hnone := asset?_eq_none_iff.mp hasset
      have herror (type text : String) : response ≠ .typed 200 type text :=
        hresponse ▸ typed_ne_typed (.inl (by decide))
      exact ⟨iff_of_false (herror _ _) hpage, fun _ a ha => iff_of_false (herror _ _) (hnone a ha),
        fun _ _ => hresponse⟩
    · rw [hasset] at hresponse
      have ha : a ∈ assets := List.mem_of_find?_eq_some hasset
      refine ⟨iff_of_false ?_ hpage, fun _ b hb => ?_, fun _ hnone => ?_⟩
      · rw [hresponse]
        exact (shellResponse_ne_asset ha c.compile.json.render).symm
      · rw [hresponse, asset_response_inj ha hb, ← asset?_eq_some_iff hb, hasset, Option.some_inj]
      · exact absurd ((asset?_eq_some_iff ha).mp hasset) (hnone a ha)

variable {σ : Type}

theorem answer_of_get (h : Host σ) (s : Server) (busy : Bool) (w : World σ) {r : Request}
    (hmethod : r.method = "GET") (hpath : Route.ofPath? r.path = none) :
    s.answer h busy r w = ⟨(s.page r.path).adding originHeaders, w, []⟩ := by
  rw [answer, hpath, hmethod]
  rfl

/-- Every well-formed configuration can be served. -/
theorem exists_ofConfiguration_eq_ok (hc : c.WellFormed) (interface : String) :
    ∃ p, ofConfiguration c.compile interface = .ok (of c.compile p interface) := by
  obtain ⟨p, hp, -⟩ := Pipeline.exists_compile_eq_ok hc
  exact ⟨p, by simp only [ofConfiguration, hp, bind, Except.bind, pure, Except.pure]⟩

theorem ofPath?_name {name : String} (h : Name.InGrammar name) :
    Route.ofPath? ("/" ++ name) = none := by
  refine Option.eq_none_iff_forall_ne_some.mpr fun route hroute => ?_
  exact h.route_path_ne route (Route.path_of_ofPath? hroute)

theorem asset_path_ne {a : Asset} (ha : a ∈ assets) {name : String} (h : Name.InGrammar name) :
    "/" ++ a.name ≠ "/" ++ name := by
  obtain rfl := List.mem_singleton.mp ha
  have hpoint : '.' ∈ ("/" ++ shellAsset.name).toList.tail := by
    decide +kernel
  exact h.path_ne rfl hpoint

/-- The page is the shell but for the place of the first placeholder. -/
theorem shellResponse_eq {before after : List Char}
    (h : Text.FirstBetween Page.placeholder Page.shell.toList before after)
    (configuration : String) :
    shellResponse configuration = .typed 200 "text/html; charset=utf-8" (String.ofList (before ++
      "configuration=".toList ++ Page.guardClosings configuration.toList ++ after)) := by
  rw [shellResponse, Page.withConfiguration, Page.inject_of_firstBetween h]
  rfl

/-- A server for a valid configuration answers with the page at the paths of the page, with an
embedded file at its name, and with an error at every other path that is not of a route.  The page
is the shell with the configuration in place of the first placeholder, as a text that closes no
element.  The path of every declared value is neither that of a route nor that of a file.  It has
characters only that stand for themselves in a request, which is therefore answered with the page.
-/
theorem exists_server_pages {c : Configuration} (hc : c.valid = true) (interface : String) :
    ∃ s before after, ofConfiguration c.compile interface = .ok s ∧
      Text.FirstBetween Page.placeholder Page.shell.toList before after ∧
      let injected := Page.guardClosings c.compile.json.render.toList
      let shown : Response := .typed 200 "text/html; charset=utf-8"
        (String.ofList (before ++ "configuration=".toList ++ injected ++ after))
      ¬ ['<', '/'] <:+: injected ∧ c.compile.json.Spells injected ∧
      (∀ {σ : Type} (h : Host σ) (busy : Bool) (w : World σ) (r : Request),
        r.method = "GET" → Route.ofPath? r.path = none →
        ∃ response, s.answer h busy r w = ⟨response.adding originHeaders, w, []⟩ ∧
          (response = shown ↔ c.HasPage r.path) ∧
          (¬ c.HasPage r.path →
            ∀ a ∈ assets, response = a.response ↔ withoutSlashes r.path = a.name) ∧
          (¬ c.HasPage r.path → (∀ a ∈ assets, withoutSlashes r.path ≠ a.name) →
            response = .error 404 (r.path ++ " not found"))) ∧
      ∀ v ∈ c.values, let path := "/" ++ v.name
        (∀ route : Route, route.path ≠ path) ∧ (∀ a ∈ assets, "/" ++ a.name ≠ path) ∧
        (∀ d ∈ v.name.toList, d.isAlphanum ∨ d = '_' ∨ d = '-') ∧
        (Request.target? path =
          if Request.longestTarget < path.utf8ByteSize then none else some (path.toList, [])) ∧
        ∀ {σ : Type} (h : Host σ) (busy : Bool) (w : World σ) (r : Request),
          r.method = "GET" → r.path = path →
          s.answer h busy r w = ⟨shown.adding originHeaders, w, []⟩ := by
  have hformed : c.WellFormed := .of_valid hc
  obtain ⟨p, hserver⟩ := exists_ofConfiguration_eq_ok hformed interface
  obtain ⟨before, after, hfirst⟩ : ∃ before after,
      Text.FirstBetween Page.placeholder Page.shell.toList before after :=
    ⟨_, _, Text.cutAt?_eq_some_iff.mp Page.cutAt?_placeholder⟩
  have hspells : c.compile.json.Spells (Page.guardClosings c.compile.json.render.toList) := by
    have hchars : c.compile.json.render.toList = c.compile.json.chars := String.toList_ofList
    exact hchars ▸ Page.spells_guardClosings (Json.spells_chars c.compile.json)
  refine ⟨_, before, after, hserver, hfirst, Page.not_infix_guardClosings _, hspells, ?_⟩
  rw [← shellResponse_eq hfirst c.compile.json.render]
  refine ⟨fun h busy w r hmethod hpath => ?_, fun v hv => ?_⟩
  · exact ⟨_, answer_of_get h _ busy w hmethod hpath, page_eq_iff r.path⟩
  · obtain ⟨-, hname⟩ := hformed.valueNames v hv
    refine ⟨hname.route_path_ne, fun a ha => asset_path_ne ha hname, hname.forall_mem,
      Request.target?_of_forall (by simp) (Request.isPathChar_of_name hname), ?_⟩
    intro σ h busy w r hmethod hpath
    have hroute : Route.ofPath? r.path = none := hpath ▸ ofPath?_name hname
    have hpage : c.HasPage r.path := .inr (.inr ⟨v, hv, hpath⟩)
    rw [answer_of_get h _ busy w hmethod hroute, (page_eq_iff r.path).1.mpr hpage]

/-- The page of the key, the shell behind two slashes, and a path at which nothing is found. -/
theorem exists_server_wireless_pages : Configuration.wireless.valid = true ∧
    ∃ s before after, ofConfiguration Configuration.wireless.compile "wlan0" = .ok s ∧
      let get (path : String) : Response :=
        (s.answer silentHost false ⟨"GET", path, [], []⟩ (.of .empty ())).response
      get "/psk" = (Response.typed 200 "text/html; charset=utf-8" (String.ofList (before ++
        "configuration=".toList ++
          Page.guardClosings Configuration.wireless.compile.json.render.toList ++
            after))).adding originHeaders ∧
      get "//index.html" = shellAsset.response.adding originHeaders ∧
      get "/%70sk" = (Response.error 404 "/%70sk not found").adding originHeaders := by
  obtain ⟨s, before, after, hs, -, -, -, hfallback, hvalues⟩ :=
    exists_server_pages Configuration.wireless_valid "wlan0"
  refine ⟨Configuration.wireless_valid, s, before, after, hs, ?_, ?_, ?_⟩
  · have hv : ⟨"psk", "the network's key", true⟩ ∈ Configuration.wireless.values := by decide
    obtain ⟨-, -, -, -, hanswer⟩ := hvalues _ hv
    exact congrArg Exchange.response
      (hanswer silentHost false (.of .empty ()) ⟨"GET", "/psk", [], []⟩ rfl (by decide))
  · obtain ⟨response, hanswer, -, hasset, -⟩ :=
      hfallback silentHost false (.of .empty ()) ⟨"GET", "//index.html", [], []⟩ rfl (by decide)
    have hshell := (hasset (by decide) shellAsset List.mem_cons_self).mpr (by decide)
    exact congrArg Exchange.response (hshell ▸ hanswer)
  · obtain ⟨response, hanswer, -, -, habsent⟩ :=
      hfallback silentHost false (.of .empty ()) ⟨"GET", "/%70sk", [], []⟩ rfl (by decide)
    have habsent := habsent (by decide) (by decide)
    exact congrArg Exchange.response (habsent ▸ hanswer)

end Server

end Provision
