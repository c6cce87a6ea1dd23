import ReverseTunnel.Proofs.Http.Targets
import ReverseTunnel.Proofs.Server.ForwardedHeaders

/-!
# The request target that a local service sees

A request target crosses two hops. The server reduces it to a path and a query, which are written
to the connection and read from it by the client. The client joins what it has read to the path of
the local URL, without the slashes at the end of that path.

A target that is reduced stands below the base path as the requested one does (`IsReduced`), and so
does what is read of it (`parse?_originForm`). The client then refuses a target only if the joined
text is too long (`localRequest_joined`). So the target that arrives is known for every request
(`target_rebased_iff`). One kind gets lost on the way: an absolute URI that ends with its authority
is reduced to an empty target, which is written as nothing (`pathless_target_lost`).
-/

namespace ReverseTunnel

open Http

/-! ## Reducing a target and writing it -/

namespace Http.Uri

/-- A URI that is only a target, and the same one below a base path as the requested one. -/
structure IsReduced (requested reduced : Uri) : Prop where
  alone : reduced.scheme = none ∧ reduced.authority = none
  hasTarget : ∃ path query, HasTarget reduced path query
  rooted_eq : reduced.rooted = requested.rooted

section HasTarget

variable {u : Uri} {path query : List Char} (h : HasTarget u path query)
include h

theorem isReduced_target : IsReduced u ⟨none, none, u.target⟩ := by
  have htarget : HasTarget ⟨none, none, u.target⟩ path query := ⟨h.isTarget, h.target_eq⟩
  exact ⟨⟨rfl, rfl⟩, ⟨_, _, htarget⟩, htarget.rooted_eq.trans h.rooted_eq.symm⟩

theorem isReduced_fromRoot :
    IsReduced u ⟨none, none, String.ofList (fromRoot path ++ query)⟩ := by
  have htarget : HasTarget ⟨none, none, String.ofList (fromRoot path ++ query)⟩
      (fromRoot path) query := ⟨h.isTarget.fromRoot, rfl⟩
  refine ⟨⟨rfl, rfl⟩, ⟨_, _, htarget⟩, ?_⟩
  rw [htarget.rooted_eq, h.rooted_eq, fromRoot_of_root (head_fromRoot path)]

end HasTarget

end Http.Uri

namespace Server

open Uri

theorem isReduced_originForm {cs : List Char} {u : Uri} (h : Form cs u) :
    IsReduced u (originForm u) := by
  cases h with
  | asterisk =>
    have htarget : HasTarget ⟨none, none, "*"⟩ ['*'] [] := ⟨isTarget_of_path (by decide), rfl⟩
    exact isReduced_target htarget
  | origin hroot hpath hfragment => exact isReduced_target ⟨hpath, rfl⟩
  | authority hname =>
    have htarget : HasTarget ⟨none, some (String.ofList cs), ""⟩ [] [] :=
      ⟨isTarget_of_path rfl, rfl⟩
    exact isReduced_fromRoot htarget
  | absolute hopening hname hroot hpath hfragment => exact isReduced_target ⟨hpath, rfl⟩

/-- What is read of a reduced target that was written. Only the target of an absolute URI that
ends with its authority is not read. -/
theorem parse?_originForm {cs : List Char} {u : Uri} (h : Form cs u)
    (hsize : (String.ofList cs).utf8ByteSize ≤ maxLength) :
    (u.scheme.isSome = true ∧ u.target = "" ∧ parse? (originForm u).text = none) ∨
    (¬ (u.scheme.isSome = true ∧ u.target = "") ∧
      ∃ v, parse? (originForm u).text = some v ∧ IsReduced u v) := by
  cases h with
  | asterisk =>
    refine Or.inr ⟨fun hboth => Bool.false_ne_true hboth.1, ⟨none, none, "*"⟩, by decide, ?_⟩
    exact isReduced_originForm Form.asterisk
  | @origin path query fragment hroot hpath hfragment =>
    have htarget : HasTarget ⟨none, none, String.ofList (path ++ query)⟩ path query := ⟨hpath, rfl⟩
    have hne : String.ofList (path ++ query) ≠ "" := htarget.target_ne_empty hroot
    have hle := Nat.le_trans (@size_fromRoot_le [] path query fragment (Or.inl hroot)) hsize
    exact Or.inr ⟨fun hboth => hne hboth.2, _, htarget.parse?_text hne (Or.inr hroot) hle,
      isReduced_fromRoot htarget⟩
  | authority hname =>
    have hslash : parse? (text ⟨none, none, "/"⟩) = some ⟨none, none, "/"⟩ := by decide
    refine Or.inr ⟨fun hboth => Bool.false_ne_true hboth.1, ⟨none, none, "/"⟩, hslash, ?_⟩
    exact isReduced_originForm (Form.authority hname)
  | @absolute scheme opening name path query fragment hopening hname hroot hpath hfragment =>
    have htarget : HasTarget ⟨none, none, String.ofList (path ++ query)⟩ path query := ⟨hpath, rfl⟩
    by_cases hempty : String.ofList (path ++ query) = ""
    · -- Nothing is left to be written.
      left
      refine ⟨rfl, hempty, ?_⟩
      change parse? (text ⟨none, none, String.ofList (path ++ query)⟩) = none
      rw [hempty]
      decide
    · -- The authority makes room for the slash that is written before a query.
      have hne : opening ++ name ≠ [] := fun hnil => hname (List.append_eq_nil_iff.1 hnil).2
      rw [← List.append_assoc] at hsize
      have hle := Nat.le_trans (size_fromRoot_le query fragment (Or.inr hne)) hsize
      refine Or.inr ⟨fun hboth => hempty hboth.2, _, htarget.parse?_text hempty hroot hle, ?_⟩
      exact isReduced_fromRoot ⟨hpath, rfl⟩

end Server

/-! ## Joining a target to the base path -/

namespace Client

open Uri

/-- The path of a URL without the slashes at its end. -/
structure IsBasePath (path base : String) : Prop where
  cut : ∃ n, path.toList = base.toList ++ List.replicate n '/'
  ends : base.toList.getLast? ≠ some '/'

/-- The path of a local URL as the client cuts it. -/
def basePath (url : Uri) : String :=
  String.ofList (Text.dropEndWhile (· == '/') url.path.toList)

theorem toList_basePath (url : Uri) :
    (basePath url).toList = Text.dropEndWhile (· == '/') url.path.toList := String.toList_ofList

theorem isBasePath_basePath (url : Uri) : IsBasePath url.path (basePath url) := by
  constructor
  · obtain ⟨tail, htail, hslashes⟩ := Text.dropEndWhile_append (· == '/') url.path.toList
    refine ⟨tail.length, ?_⟩
    rw [toList_basePath, ← List.eq_replicate_of_mem (l := tail)]
    · exact htail
    · exact fun c hc => eq_of_beq (List.all_eq_true.1 hslashes c hc)
  · intro hlast
    rw [toList_basePath] at hlast
    have hcut := Text.dropEndWhile_dropEndWhile (· == '/') url.path.toList
    exact absurd ((Text.dropEndWhile_eq_self_iff _ _).1 hcut '/' hlast) (by decide)

/-- A local URL is absolute. -/
theorem absolute_of_localUrl {tunnel text : String} {url : Uri}
    (h : Routes.localUrl tunnel text = .ok url) :
    Uri.parse? (Text.trim text) = some url ∧ url.scheme = some "http" ∧
      ∃ authority, url.authority = some authority := by
  unfold Routes.localUrl at h
  split at h
  · cases h
  next uri hparsed =>
  split at h
  · cases h
  next scheme hscheme =>
  split at h
  · cases h
  next hhttp =>
  split at h
  · cases h
  next hauthority =>
  cases h
  refine ⟨hparsed, ?_, Option.ne_none_iff_exists'.1 fun hnone => hauthority (hnone ▸ rfl)⟩
  rw [hscheme, Classical.not_not.1 hhttp]

/-- The base path of a local URL is a path from the root, or empty. -/
theorem isTarget_basePath {tunnel text : String} {url : Uri}
    (h : Routes.localUrl tunnel text = .ok url) :
    IsTarget (basePath url).toList [] ∧
      ((basePath url).toList = [] ∨ (basePath url).toList.head? = some '/') := by
  obtain ⟨hparsed, hscheme, -⟩ := absolute_of_localUrl h
  -- The path as it is written has a slash even if it is empty.
  have hpath : ∃ written : List Char, url.path = String.ofList written ∧
      written.head? = some '/' ∧ written.all isPathChar = true := by
    have hform := form_of_parse? hparsed
    generalize (Text.trim text).toList = cs at hform
    cases hform with
    | asterisk => cases hscheme
    | origin _ _ _ => cases hscheme
    | authority _ => cases hscheme
    | @absolute scheme _ name path query _ _ _ hroot his _ =>
      have htarget : HasTarget ⟨some scheme, some (String.ofList name),
          String.ofList (path ++ query)⟩ path query := ⟨his, rfl⟩
      rcases hroot with hnil | hroot
      · exact ⟨['/'], htarget.path_of_nil hnil, rfl, by decide⟩
      · refine ⟨path, htarget.path_of_ne_nil ?_, hroot, his.pathChars⟩
        rintro rfl
        cases hroot
  obtain ⟨written, hwritten, hslash, hchars⟩ := hpath
  obtain ⟨tail, htail, -⟩ := Text.dropEndWhile_append (· == '/') url.path.toList
  rw [← toList_basePath, hwritten, String.toList_ofList] at htail
  constructor
  · rw [htail, List.all_append, Bool.and_eq_true] at hchars
    exact isTarget_of_path hchars.1
  · cases hbase : (basePath url).toList with
    | nil => exact Or.inl rfl
    | cons first rest =>
      rw [htail, hbase] at hslash
      exact Or.inr hslash

/-- The text of a local target, for a URI that is only a target. -/
theorem joinedTarget_eq (url : Uri) {u v : Uri} (h : IsReduced u v) :
    joinedTarget url v = basePath url ++ u.rooted := by
  obtain ⟨⟨hscheme, hauthority⟩, ⟨path, query, htarget⟩, hrooted⟩ := h
  have hwhole : v.pathAndQuery? = some (if v.target = "" then "/" else v.target) := by
    rw [pathAndQuery?, hauthority]
    exact if_pos (Bool.or_true _)
  have hslash : fromRoot (if v.target = "" then "/" else v.target).toList =
      fromRoot path ++ query := by
    split
    · next hempty =>
      obtain ⟨rfl, rfl⟩ := htarget.target_eq_empty_iff.1 hempty
      rfl
    · rw [htarget.target_eq, String.toList_ofList, fromRoot_append path htarget.isTarget.opened]
  have hjoin : ∀ target : String,
      (if Text.startsWith '/' target then basePath url ++ target
        else basePath url ++ "/" ++ target) =
      basePath url ++ String.ofList (fromRoot target.toList) := by
    intro target
    rw [← slash_append]
    split
    · rfl
    · exact String.append_assoc
  calc joinedTarget url v
      = basePath url ++
          String.ofList (fromRoot (if v.target = "" then "/" else v.target).toList) := by
        rw [← hjoin, joinedTarget, hwhole]
        rfl
    _ = basePath url ++ u.rooted := by
        rw [hslash, ← hrooted, htarget.rooted_eq]

/-- A base path and the part below it are a path from the root and a query again. -/
theorem exists_joined {tunnel text : String} {url u v : Uri}
    (hurl : Routes.localUrl tunnel text = .ok url) (h : IsReduced u v) :
    ∃ path query, basePath url ++ u.rooted = String.ofList (path ++ query) ∧
      IsTarget path query ∧ path.head? = some '/' := by
  obtain ⟨hbase, hroot⟩ := isTarget_basePath hurl
  obtain ⟨-, ⟨path, query, htarget⟩, hrooted⟩ := h
  refine ⟨(basePath url).toList ++ fromRoot path, query, ?_, ?_, ?_⟩
  · have hbase : basePath url = String.ofList (basePath url).toList := String.ofList_toList.symm
    rw [← hrooted, htarget.rooted_eq, hbase, ← String.ofList_append, String.toList_ofList,
      List.append_assoc]
  · refine ⟨?_, htarget.isTarget.queryChars, htarget.isTarget.opened⟩
    rw [List.all_append, Bool.and_eq_true]
    exact ⟨hbase.pathChars, htarget.isTarget.fromRoot.pathChars⟩
  · rcases hroot with hnil | hroot
    · rw [hnil]
      exact head_fromRoot path
    · rw [List.head?_append, hroot]
      rfl

section Joined

variable {tunnel urlText : String} {url u v : Uri}
  (hurl : Routes.localUrl tunnel urlText = .ok url) (h : IsReduced u v)
include hurl h

/-- The client refuses a reduced target only if the joined text is too long. -/
theorem localTarget_eq :
    localTarget url v =
      if (basePath url ++ u.rooted).utf8ByteSize ≤ maxLength then
        .ok ⟨none, none, basePath url ++ u.rooted⟩
      else .error (.badTarget (basePath url ++ u.rooted)) := by
  obtain ⟨path, query, hwhole, his, hroot⟩ := exists_joined hurl h
  unfold localTarget
  rw [joinedTarget_eq url h, hwhole, parse?_of_root his hroot]
  by_cases hsize : (String.ofList (path ++ query)).utf8ByteSize ≤ maxLength
  · rw [if_pos hsize, if_pos hsize]
  · rw [if_neg hsize, if_neg hsize]

/-- The joined target is written to the local service as it is. -/
theorem text_joined :
    text ⟨none, none, basePath url ++ u.rooted⟩ = basePath url ++ u.rooted := by
  obtain ⟨path, query, hwhole, his, hroot⟩ := exists_joined hurl h
  have htarget : HasTarget ⟨none, none, String.ofList (path ++ query)⟩ path query := ⟨his, rfl⟩
  have hne : String.ofList (path ++ query) ≠ "" := htarget.target_ne_empty hroot
  rw [hwhole, htarget.text_eq hne (Or.inr hroot), fromRoot_of_root hroot]

end Joined

/-- The request to the local service of a local URL has the local target, and only that can be
missing. -/
theorem map_uri_localRequest {tunnel urlText : String} {url : Uri}
    (hurl : Routes.localUrl tunnel urlText = .ok url) (request : Request) :
    (localRequest url request).map Request.uri = localTarget url request.uri := by
  obtain ⟨hparsed, -, authority, hauthority⟩ := absolute_of_localUrl hurl
  obtain ⟨value, hvalue⟩ := FieldValue.exists_ofText? (isReadable_authority hparsed hauthority)
  simp only [localRequest, hauthority, bind, Except.bind, pure, Except.pure]
  cases localTarget url request.uri with
  | error fault => rfl
  | ok target =>
    simp only [hvalue]
    rfl

/-- The client joins a reduced target to the base path, unless the joined text is too long. -/
theorem localRequest_joined {tunnel urlText : String} {url u : Uri}
    (hurl : Routes.localUrl tunnel urlText = .ok url) {arrived : Request}
    (h : IsReduced u arrived.uri) :
    ((basePath url ++ u.rooted).utf8ByteSize ≤ maxLength →
      ∃ served, localRequest url arrived = .ok served ∧
        served.uri.text = basePath url ++ u.rooted) ∧
    (maxLength < (basePath url ++ u.rooted).utf8ByteSize →
      localRequest url arrived = .error (.badTarget (basePath url ++ u.rooted))) := by
  have huri := map_uri_localRequest hurl arrived
  rw [localTarget_eq hurl h] at huri
  constructor
  · intro hle
    rw [if_pos hle] at huri
    cases hserved : localRequest url arrived with
    | error fault =>
      rw [hserved] at huri
      cases huri
    | ok served =>
      rw [hserved] at huri
      refine ⟨served, rfl, ?_⟩
      rw [Except.ok.inj huri]
      exact text_joined hurl h
  · intro hlong
    rw [if_neg (Nat.not_le.2 hlong)] at huri
    cases hserved : localRequest url arrived with
    | error fault =>
      rw [hserved] at huri
      rw [Except.error.inj huri]
    | ok served =>
      rw [hserved] at huri
      cases huri

end Client

/-! ## Both hops -/

namespace Server

open Client

/-- The request target that a local service sees. The client joins what it gets to the base path,
which is the path of the local URL without the slashes at its end: the path and the query of the
requested URI stand below it, and the only target that is refused is one that is too long when it
is joined. This holds for every request that is forwarded, whether the client takes the target as
it was sent or reads it as it was written. What was written can be read, unless the requested URI
is absolute and ends with its authority. -/
theorem target_rebased_iff {tunnel urlText requestText : String} {url : Uri}
    (hurl : Routes.localUrl tunnel urlText = .ok url) {registry : Registry}
    {request sent : Request} {caller : Caller} {route : HostRoute} {message : ControlMessage}
    {upgrade : Bool} (hrequested : Uri.parse? requestText = some request.uri)
    (hforward : routeRequest registry request caller = .forwarded route message sent upgrade) :
    IsBasePath url.path (basePath url) ∧
      ((∃ read, Uri.parse? sent.uri.text = some read) ↔
        ¬ (request.uri.scheme.isSome = true ∧ request.uri.target = "")) ∧
      ∀ arrived : Request,
        (arrived.uri = sent.uri ∨ Uri.parse? sent.uri.text = some arrived.uri) →
        ((basePath url ++ request.uri.rooted).utf8ByteSize ≤ Uri.maxLength →
          ∃ served, localRequest url arrived = .ok served ∧
            served.uri.text = basePath url ++ request.uri.rooted) ∧
        (Uri.maxLength < (basePath url ++ request.uri.rooted).utf8ByteSize →
          localRequest url arrived = .error (.badTarget (basePath url ++ request.uri.rooted))) := by
  have hform := Uri.form_of_parse? hrequested
  have hsize : (String.ofList requestText.toList).utf8ByteSize ≤ Uri.maxLength := by
    rw [String.ofList_toList]
    exact Uri.le_maxLength_of_parse? hrequested
  obtain ⟨-, -, -, -, hsent⟩ := forwardRequest_of_routeRequest hforward
  simp only [forwardRequest, Forwarding.forwarded.injEq] at hsent
  have huri : sent.uri = originForm request.uri := by rw [← hsent.2.2.1]
  have hhop := parse?_originForm hform hsize
  rw [huri]
  refine ⟨isBasePath_basePath url, ?_, ?_⟩
  · rcases hhop with ⟨hscheme, htarget, hnone⟩ | ⟨hnot, read, hread, -⟩
    · apply iff_of_false
      · rintro ⟨read, hread⟩
        cases hnone.symm.trans hread
      · exact fun hnot => hnot ⟨hscheme, htarget⟩
    · exact iff_of_true ⟨read, hread⟩ hnot
  · intro arrived harrived
    apply localRequest_joined hurl
    rcases harrived with heq | hread
    · rw [heq]
      exact isReduced_originForm hform
    · rcases hhop with ⟨-, -, hnone⟩ | ⟨-, read, hread', hreduced⟩
      · cases hnone.symm.trans hread
      · cases hread'.symm.trans hread
        exact hreduced

/-- A request in absolute form, with what follows the authority in its target. -/
def absoluteRequest (target : String) : Request :=
  ⟨"GET", ⟨some "http", some "a.example", target⟩, Headers.empty, []⟩

theorem routeRequest_absoluteRequest (target : String) :
    routeRequest mixedRegistry (absoluteRequest target) pageCaller =
      forwardRequest ⟨"node", "10.0.0.1:5000", "a", .http, none⟩ "a.example"
        (absoluteRequest target) pageCaller := by
  have hhost : requestHost (absoluteRequest target).headers (absoluteRequest target).uri =
      some "a.example" := by
    change (some "a.example").filter (fun host => !Text.isBlankText host) = some "a.example"
    decide +kernel
  have hresolve : mixedRegistry.resolve "a.example" =
      some ⟨"node", "10.0.0.1:5000", "a", .http, none⟩ := by decide +kernel
  exact routeRequest_of_resolve pageCaller hhost hresolve rfl rfl

/-- Control: a query without a path arrives below a path with several slashes at its end. -/
theorem target_rebased_iff_query :
    ∃ sent upgrade,
      Routes.localUrl "a" " http://127.0.0.1:9001/b///?ignored=1" =
        .ok ⟨some "http", some "127.0.0.1:9001", "/b///?ignored=1"⟩ ∧
      Uri.parse? "http://a.example?q=/#top" = some (absoluteRequest "?q=/").uri ∧
      routeRequest mixedRegistry (absoluteRequest "?q=/") pageCaller =
        .forwarded ⟨"node", "10.0.0.1:5000", "a", .http, none⟩
          ⟨.http, "a.example", "a", pageCaller.address⟩ sent upgrade ∧
      (∃ read, Uri.parse? sent.uri.text = some read) ∧
      ∀ arrived : Request, Uri.parse? sent.uri.text = some arrived.uri →
        ∃ served, localRequest ⟨some "http", some "127.0.0.1:9001", "/b///?ignored=1"⟩ arrived =
            .ok served ∧
          served.uri.text = "/b/?q=/" := by
  have hurl : Routes.localUrl "a" " http://127.0.0.1:9001/b///?ignored=1" =
      .ok ⟨some "http", some "127.0.0.1:9001", "/b///?ignored=1"⟩ := by decide +kernel
  have hrequested : Uri.parse? "http://a.example?q=/#top" = some (absoluteRequest "?q=/").uri := by
    decide +kernel
  have hforward := routeRequest_absoluteRequest "?q=/"
  obtain ⟨-, hhop, harrives⟩ := target_rebased_iff hurl hrequested hforward
  have htarget : basePath ⟨some "http", some "127.0.0.1:9001", "/b///?ignored=1"⟩ ++
      (absoluteRequest "?q=/").uri.rooted = "/b/?q=/" := by decide +kernel
  rw [htarget] at harrives
  refine ⟨_, _, hurl, hrequested, hforward, hhop.2 (by decide +kernel), ?_⟩
  intro arrived harrived
  exact (harrives arrived (Or.inr harrived)).1 (by decide +kernel)

/-- An absolute URI without a path stands for `/`, but it is written to the client as nothing. -/
theorem pathless_target_lost :
    Uri.parse? "http://a.example" = some (absoluteRequest "").uri ∧
      (absoluteRequest "").uri.rooted = "/" ∧
      ∃ sent upgrade, routeRequest mixedRegistry (absoluteRequest "") pageCaller =
          .forwarded ⟨"node", "10.0.0.1:5000", "a", .http, none⟩
            ⟨.http, "a.example", "a", pageCaller.address⟩ sent upgrade ∧
        sent.uri.text = "" ∧ Uri.parse? sent.uri.text = none := by
  refine ⟨by decide +kernel, by decide +kernel, _, _, routeRequest_absoluteRequest "", ?_, ?_⟩
  · decide +kernel
  · decide +kernel

end Server

end ReverseTunnel
