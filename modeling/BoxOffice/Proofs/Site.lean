import BoxOffice.Client.Site
import BoxOffice.Proofs.Text.Trim

/-!
# Roots and tokens of sites

* `slashes`, `NoSlashAtEnd`, `NoSlashAtStart` -- runs of slashes, and texts with no slash at an end;
* `dropEndWhile_slashes`, `trimBoth_slashes`, `exists_slashes` -- trimming takes exactly the outer slashes;
* `Site.root_under` -- so the root of a site is made of a base and a path without outer slashes;
* `Site.root_of_site` -- it ends with a slash if, and only if, the path is nothing but slashes, and then every URL
  under it has two slashes in a row;
* `Site.withTokens_eq` -- tokens are added and never replaced, `Site.authorization_of_request` -- so a request carries
  all of them, and the first one is found.
-/

namespace BoxOffice.Client

open BoxOffice.Text

/-! ## 1. Slashes around a text -/

/-- A run of slashes. -/
def slashes (n : Nat) : List Char := List.replicate n '/'

/-- The text does not end with a slash. -/
def NoSlashAtEnd (cs : List Char) : Prop := cs.getLast? ≠ some '/'

/-- The text does not begin with a slash. -/
def NoSlashAtStart (cs : List Char) : Prop := cs.head? ≠ some '/'

theorem isSlash_iff {c : Char} : isSlash c = true ↔ c = '/' := beq_iff_eq

theorem isSlash_of_mem_slashes {n : Nat} : ∀ c ∈ slashes n, isSlash c = true :=
  fun _ h => isSlash_iff.mpr (List.eq_of_mem_replicate h)

/-- A text of slashes only is a run of them. -/
theorem eq_slashes {cs : List Char} (h : ∀ c ∈ cs, isSlash c = true) : cs = slashes cs.length :=
  List.eq_replicate_of_mem fun c mem => isSlash_iff.mp (h c mem)

/-- Slashes at the end of a text are trimmed. -/
theorem dropEndWhile_slashes (cs : List Char) (n : Nat) :
    dropEndWhile isSlash (cs ++ slashes n) = dropEndWhile isSlash cs :=
  dropEndWhile_append_of_pos isSlash_of_mem_slashes

/-- What is trimmed at the end are slashes. -/
theorem exists_slashes_end (cs : List Char) : ∃ n, cs = dropEndWhile isSlash cs ++ slashes n := by
  refine ⟨(cs.rtakeWhile isSlash).length, ?_⟩
  rw [← eq_slashes fun _ => List.mem_rtakeWhile_imp]
  exact List.rdropWhile_append_rtakeWhile.symm

theorem noSlashAtEnd_dropEndWhile (cs : List Char) : NoSlashAtEnd (dropEndWhile isSlash cs) :=
  fun last => absurd (last_dropEndWhile cs '/' last) (by decide)

/-- A text that does not end with a slash stays as it is. -/
theorem dropEndWhile_of_noSlashAtEnd {cs : List Char} (h : NoSlashAtEnd cs) : dropEndWhile isSlash cs = cs := by
  refine dropEndWhile_eq_self fun c last => Bool.eq_false_iff.mpr fun slash => h ?_
  rw [last, isSlash_iff.mp slash]

/-- What is trimmed around a text are slashes. -/
theorem exists_slashes (cs : List Char) : ∃ j k, cs = slashes j ++ trimBoth isSlash cs ++ slashes k ∧
    NoSlashAtStart (trimBoth isSlash cs) ∧ NoSlashAtEnd (trimBoth isSlash cs) := by
  have core := isCore_trimBoth isSlash cs
  obtain ⟨front, back, parts, head, tail⟩ := core.around
  refine ⟨front.length, back.length, ?_, fun first => absurd (core.first '/' first) (by decide),
    fun last => absurd (core.last '/' last) (by decide)⟩
  rw [← eq_slashes head, ← eq_slashes tail]
  exact parts

/-- Slashes around a text are trimmed. -/
theorem trimBoth_slashes (j k : Nat) (cs : List Char) :
    trimBoth isSlash (slashes j ++ cs ++ slashes k) = trimBoth isSlash cs := by
  have core := isCore_trimBoth isSlash cs
  obtain ⟨front, back, parts, head, tail⟩ := core.around
  refine trimBoth_eq_iff.mpr ⟨⟨slashes j ++ front, back ++ slashes k, ?_, fun c mem => ?_, fun c mem => ?_⟩,
    core.first, core.last⟩
  · conv_lhs => rw [parts]
    simp only [List.append_assoc]
  · exact (List.mem_append.mp mem).elim (isSlash_of_mem_slashes c) (head c)
  · exact (List.mem_append.mp mem).elim (tail c) (isSlash_of_mem_slashes c)

/-- Nothing is left of a text if, and only if, it is nothing but slashes. -/
theorem trimBoth_eq_nil_iff (cs : List Char) : trimBoth isSlash cs = [] ↔ ∀ c ∈ cs, c = '/' := by
  rw [trimBoth_eq_nil_iff_all]
  simp only [isSlash_iff]

/-! ## 2. The requests of a site -/

namespace Site

/-- The parts of a request that come from its site. -/
theorem request_ok {s : Site} {e : Endpoint} {arguments : List (String × String)} {criteria : Criteria}
    {body : Option Payload} {r : Request} (built : s.request e arguments criteria body = .ok r) :
    ∃ path, renderPath e.path arguments = .ok path ∧ r.url = s.url path ∧
      ∃ hasBody, r.headers = s.requestHeaders e.response hasBody := by
  unfold request at built
  cases rendered : renderPath e.path arguments with
  | error failure =>
    rw [rendered] at built
    cases built
  | ok path =>
    rw [rendered] at built
    match body with
    | none =>
      cases built
      exact ⟨path, rfl, rfl, false, rfl⟩
    | some (.ok v) =>
      cases built
      exact ⟨path, rfl, rfl, true, rfl⟩
    | some (.error fault) => cases built

theorem toList_url (s : Site) {path : String} (some_char : path ≠ "") :
    (s.url path).toList = s.root.toList ++ '/' :: path.toList := by
  have full : path.isEmpty = false := by
    rw [Bool.eq_false_iff, Ne, String.isEmpty_iff]
    exact some_char
  rw [url, full, if_neg Bool.false_ne_true, String.toList_append, String.toList_append, List.append_assoc]
  rfl

/-- **Tokens are added, and never replaced.** -/
theorem withTokens_eq (s : Site) (tokens : List String) :
    s.withTokens tokens = ⟨s.root, s.headers ++ tokens.map fun token => ("authorization", "Bearer " ++ token)⟩ := by
  induction tokens generalizing s with
  | nil => rw [List.map_nil, List.append_nil]; rfl
  | cons token tokens ih =>
    have first : s.withTokens (token :: tokens) = (s.withToken token).withTokens tokens := rfl
    rw [first, ih, withToken, List.append_assoc]
    rfl

/-! ## 3. Roots -/

/-- **The root of a site** is its base URL and its path with one slash between them, all outer slashes taken away. -/
theorem root_under (baseUrl basePath : String) : ∃ base path n j k,
    baseUrl.toList = base ++ slashes n ∧ basePath.toList = slashes j ++ path ++ slashes k ∧
    NoSlashAtEnd base ∧ NoSlashAtStart path ∧ NoSlashAtEnd path ∧
    (under baseUrl basePath).root.toList = base ++ '/' :: path := by
  obtain ⟨n, base⟩ := exists_slashes_end baseUrl.toList
  obtain ⟨j, k, path, start, finish⟩ := exists_slashes basePath.toList
  exact ⟨_, _, n, j, k, base, path, noSlashAtEnd_dropEndWhile _, start, finish, String.toList_ofList⟩

/-- Slashes around the parts of a site do not count. -/
theorem under_slashes (baseUrl basePath : String) (n j k : Nat) :
    under (baseUrl ++ String.ofList (slashes n)) (String.ofList (slashes j) ++ basePath ++ String.ofList (slashes k)) =
      under baseUrl basePath := by
  simp only [under, String.toList_append, String.toList_ofList, dropEndWhile_slashes, trimBoth_slashes]

/-- **The root of a site ends with a slash if, and only if, the path is nothing but slashes.** -/
theorem noSlashAtEnd_root_iff (baseUrl basePath : String) :
    NoSlashAtEnd (under baseUrl basePath).root.toList ↔ ∃ c ∈ basePath.toList, c ≠ '/' := by
  have left := trimBoth_eq_nil_iff basePath.toList
  obtain ⟨_, _, _, _, finish⟩ := exists_slashes basePath.toList
  have root : (under baseUrl basePath).root.toList =
      dropEndWhile isSlash baseUrl.toList ++ '/' :: trimBoth isSlash basePath.toList := String.toList_ofList
  rw [root]
  cases path : trimBoth isSlash basePath.toList with
  | nil =>
    refine ⟨fun h => absurd List.getLast?_concat h, fun ⟨c, mem, other⟩ => absurd (left.mp path c mem) other⟩
  | cons c cs =>
    rw [path] at finish
    constructor
    · intro _
      refine Classical.byContradiction fun none => ?_
      have all : ∀ c ∈ basePath.toList, c = '/' := fun c mem =>
        Classical.byContradiction fun other => none ⟨c, mem, other⟩
      rw [left.mpr all] at path
      cases path
    · intro _ last
      rw [List.getLast?_append_cons, List.getLast?_cons_cons] at last
      exact finish last

/-- The URL of a path under a root has all slashes at the end of the root, and one more. -/
theorem slashes_of_url {s : Site} {path : String} (some_char : path ≠ "") : ∃ front m,
    NoSlashAtEnd front ∧ s.root.toList = front ++ slashes m ∧
    (s.url path).toList = front ++ slashes (m + 1) ++ path.toList := by
  obtain ⟨m, root⟩ := exists_slashes_end s.root.toList
  refine ⟨_, m, noSlashAtEnd_dropEndWhile _, root, ?_⟩
  have more : slashes (m + 1) = slashes m ++ ['/'] := List.replicate_succ'
  rw [toList_url s some_char, more, ← List.append_assoc, ← root, List.append_assoc, List.singleton_append]

/-- The slashes at the end of a root: none, or one if the path is nothing but slashes. -/
theorem slashes_of_root {baseUrl basePath : String} {front : List Char} {m : Nat} (bare : NoSlashAtEnd front)
    (root : (under baseUrl basePath).root.toList = front ++ slashes m) :
    ((∃ c ∈ basePath.toList, c ≠ '/') → m = 0) ∧ ((∀ c ∈ basePath.toList, c = '/') → m = 1) := by
  have trimmed := congrArg (dropEndWhile isSlash) root
  rw [dropEndWhile_slashes, dropEndWhile_of_noSlashAtEnd bare] at trimmed
  constructor
  · intro other
    have finish := (noSlashAtEnd_root_iff baseUrl basePath).mpr other
    rw [dropEndWhile_of_noSlashAtEnd finish, root] at trimmed
    have none : slashes m = [] := List.append_right_eq_self.mp trimmed
    exact (List.replicate_eq_nil_iff '/').mp none
  · intro all
    have path : trimBoth isSlash basePath.toList = [] := (trimBoth_eq_nil_iff _).mpr all
    have one : (under baseUrl basePath).root.toList = dropEndWhile isSlash baseUrl.toList ++ slashes 1 := by
      have whole : (under baseUrl basePath).root.toList =
          dropEndWhile isSlash baseUrl.toList ++ '/' :: trimBoth isSlash basePath.toList := String.toList_ofList
      rw [whole, path]
      rfl
    rw [one, dropEndWhile_slashes, dropEndWhile_of_noSlashAtEnd (noSlashAtEnd_dropEndWhile _)] at trimmed
    rw [one, trimmed] at root
    have same := congrArg List.length (List.append_cancel_left root)
    rw [slashes, slashes, List.length_replicate, List.length_replicate] at same
    exact same.symm

/-- **What the root of a site is, and what stands between it and a path.**

    The root is the base URL and the path of the site with one slash between them, and no slash around these parts
    counts. It ends with a slash exactly if the path of the site is nothing but slashes. Then two slashes stand
    between the base URL and the path of a request, otherwise one does. -/
theorem root_of_site (baseUrl basePath : String) :
    (∃ base path n j k, baseUrl.toList = base ++ slashes n ∧ basePath.toList = slashes j ++ path ++ slashes k ∧
      NoSlashAtEnd base ∧ NoSlashAtStart path ∧ NoSlashAtEnd path ∧
      (under baseUrl basePath).root.toList = base ++ '/' :: path) ∧
    (∀ n j k, under (baseUrl ++ String.ofList (slashes n))
      (String.ofList (slashes j) ++ basePath ++ String.ofList (slashes k)) = under baseUrl basePath) ∧
    (NoSlashAtEnd (under baseUrl basePath).root.toList ↔ ∃ c ∈ basePath.toList, c ≠ '/') ∧
    ∀ (tokens : List String) (e : Endpoint) (arguments : List (String × String)) (criteria : Criteria)
      (body : Option Payload) (r : Request) (path : String),
      ((under baseUrl basePath).withTokens tokens).request e arguments criteria body = .ok r →
      renderPath e.path arguments = .ok path → path ≠ "" → NoSlashAtStart path.toList →
      ∃ front m n, NoSlashAtEnd front ∧ (under baseUrl basePath).root.toList = front ++ slashes m ∧
        r.url.toList = front ++ slashes n ++ path.toList ∧
        ((∃ c ∈ basePath.toList, c ≠ '/') → n = 1) ∧ ((∀ c ∈ basePath.toList, c = '/') → n = 2) := by
  refine ⟨root_under baseUrl basePath, under_slashes baseUrl basePath, noSlashAtEnd_root_iff baseUrl basePath, ?_⟩
  intro tokens e arguments criteria body r path built rendered some_char _
  obtain ⟨path', rendered', url, _⟩ := request_ok built
  cases rendered.symm.trans rendered'
  obtain ⟨front, m, bare, root, whole⟩ := slashes_of_url (s := (under baseUrl basePath).withTokens tokens) some_char
  rw [← url] at whole
  rw [withTokens_eq] at root
  obtain ⟨none, one⟩ := slashes_of_root bare root
  exact ⟨front, m, m + 1, bare, root, whole, fun other => congrArg Nat.succ (none other),
    fun all => congrArg Nat.succ (one all)⟩

/-- An endpoint below the root of its site. -/
def oneTicket : Endpoint := ⟨"cancelTicketReservation", .delete, "{id}", .empty⟩

/-- The root of the tickets, and the URL of one of them. -/
theorem root_of_site_tickets :
    (under "http://localhost:3000//" "/api/v1/tickets/").request oneTicket [("id", "7")] .empty none =
      .ok ⟨.delete, "http://localhost:3000/api/v1/tickets/7", [], [], none⟩ ∧
    renderPath oneTicket.path [("id", "7")] = .ok "7" ∧ NoSlashAtStart "7".toList ∧
    ∃ front m n, NoSlashAtEnd front ∧
      (under "http://localhost:3000//" "/api/v1/tickets/").root.toList = front ++ slashes m ∧
      "http://localhost:3000/api/v1/tickets/7".toList = front ++ slashes n ++ "7".toList ∧ n = 1 := by
  have built : (under "http://localhost:3000//" "/api/v1/tickets/").request oneTicket [("id", "7")] .empty none =
      .ok ⟨.delete, "http://localhost:3000/api/v1/tickets/7", [], [], none⟩ := by decide +kernel
  have rendered : renderPath oneTicket.path [("id", "7")] = .ok "7" := by decide +kernel
  have start : NoSlashAtStart "7".toList := show "7".toList.head? ≠ some '/' by decide
  obtain ⟨front, m, n, bare, root, url, one, _⟩ := (root_of_site "http://localhost:3000//" "/api/v1/tickets/").2.2.2
    [] oneTicket _ _ _ _ "7" built rendered (by decide) start
  exact ⟨built, rendered, start, front, m, n, bare, root, url, one ⟨'a', by decide +kernel, by decide⟩⟩

/-- **Not every root is without a slash at its end**: under a path that is one slash, it has one, and URLs have two
    slashes in a row. -/
theorem root_of_bare_slash :
    ¬ NoSlashAtEnd (under "http://localhost:3000" "/").root.toList ∧
    (under "http://localhost:3000" "/").request oneTicket [("id", "7")] .empty none =
      .ok ⟨.delete, "http://localhost:3000//7", [], [], none⟩ := by
  refine ⟨fun bare => ?_, by decide +kernel⟩
  obtain ⟨c, mem, other⟩ := (noSlashAtEnd_root_iff "http://localhost:3000" "/").mp bare
  rw [show "/".toList = ['/'] by decide +kernel, List.mem_singleton] at mem
  exact other mem

/-! ## 4. Tokens -/

/-- The name of the header that holds a token, in any case. -/
def isAuthorization (name : String) : Bool := sameName name "authorization"

/-- No other header of a request has this name. -/
theorem authorization_filter (s : Site) (response : ResponseKind) (hasBody : Bool) :
    (s.requestHeaders response hasBody).filter (isAuthorization ·.1) = s.headers.filter (isAuthorization ·.1) := by
  have accept : isAuthorization "accept" = false := by decide
  have content : isAuthorization "content-type" = false := by decide
  cases response <;> cases hasBody <;>
    simp only [requestHeaders, List.filter_append, List.filter_cons, List.filter_nil, accept, content, if_true,
      Bool.false_eq_true, if_false, List.append_nil]

/-- A name is that of the header in one case if it is in another. -/
theorem sameName_iff_isAuthorization {name : String} (h : isAuthorization name = true) (other : String) :
    sameName other name = isAuthorization other := by
  rw [Bool.eq_iff_iff]
  exact ⟨fun same => sameName_trans same h, fun same => sameName_trans same (sameName_symm h)⟩

/-- Under the name of the header stands the first one. -/
theorem header?_authorization (r : Request) {name : String} (h : isAuthorization name = true) :
    r.header? name = (r.headers.filter (isAuthorization ·.1)).head?.map (·.2) := by
  have test : (fun p : String × String => sameName p.1 name) = fun p => isAuthorization p.1 :=
    funext fun p => sameName_iff_isAuthorization h p.1
  rw [Request.header?, firstNamed, test, List.head?_filter]

/-- **Every token that is attached to a site is sent, and the first one is found.**

    The authorization headers of a request are those of all tokens of its site, in the order in which these were
    attached. So there is exactly one if no token was attached before the last one, and under the name of that
    header, in any case, stands the token that was attached first. -/
theorem authorization_of_request (baseUrl basePath : String) (earlier more : List String) (last : String)
    {e : Endpoint} {arguments : List (String × String)} {criteria : Criteria} {body : Option Payload} {r : Request}
    (built : (((under baseUrl basePath).withTokens earlier).withTokens (more ++ [last])).request e arguments criteria
      body = .ok r) :
    r.headers.filter (isAuthorization ·.1) =
      (earlier ++ more ++ [last]).map (fun token => ("authorization", "Bearer " ++ token)) ∧
    ((r.headers.filter (isAuthorization ·.1)).length = 1 ↔ earlier = [] ∧ more = []) ∧
    ∀ name, isAuthorization name = true →
      r.header? name = some ("Bearer " ++ (earlier ++ more).headD last) ∧
      (r.header? name = some ("Bearer " ++ last) ↔ (earlier ++ more).headD last = last) := by
  obtain ⟨_, _, _, hasBody, headers⟩ := request_ok built
  have name : isAuthorization "authorization" = true := sameName_self _
  have all : r.headers.filter (isAuthorization ·.1) =
      (earlier ++ more ++ [last]).map (fun token => ("authorization", "Bearer " ++ token)) := by
    rw [headers, authorization_filter, withTokens_eq, withTokens_eq, under, List.nil_append, ← List.map_append,
      ← List.append_assoc, List.filter_eq_self]
    intro p mem
    obtain ⟨token, _, rfl⟩ := List.mem_map.mp mem
    exact name
  have first : ∀ tokens : List String, (tokens ++ [last]).head? = some (tokens.headD last) := by
    intro tokens
    cases tokens <;> rfl
  refine ⟨all, ?_, fun other same => ?_⟩
  · rw [all, List.length_map, List.length_append, List.length_append, List.length_singleton, ← List.length_eq_zero_iff,
      ← List.length_eq_zero_iff]
    omega
  · have found : r.header? other = some ("Bearer " ++ (earlier ++ more).headD last) := by
      rw [header?_authorization r same, all, List.head?_map, first]
      rfl
    refine ⟨found, ?_⟩
    rw [found, Option.some.injEq]
    exact ⟨String.append_right_inj _ |>.mp, congrArg _⟩

/-- A token that was attached twice is found. -/
theorem authorization_of_request_attachedTwice :
    (((under "http://x" "a").withTokens ["t"]).withTokens ([] ++ ["t"])).request oneTicket [("id", "7")] .empty none =
      .ok ⟨.delete, "http://x/a/7", [], [("authorization", "Bearer t"), ("authorization", "Bearer t")], none⟩ ∧
    isAuthorization "AUTHORIZATION" = true ∧
    (⟨.delete, "http://x/a/7", [], [("authorization", "Bearer t"), ("authorization", "Bearer t")], none⟩ :
      Request).header? "AUTHORIZATION" = some "Bearer t" := by
  have built : (((under "http://x" "a").withTokens ["t"]).withTokens ([] ++ ["t"])).request oneTicket [("id", "7")]
      .empty none = .ok ⟨.delete, "http://x/a/7", [], [("authorization", "Bearer t"), ("authorization", "Bearer t")],
        none⟩ := by decide +kernel
  have name : isAuthorization "AUTHORIZATION" = true := by decide
  exact ⟨built, name, ((authorization_of_request "http://x" "a" ["t"] [] "t" built).2.2 _ name).1⟩

/-- **A token does not replace the one before it**: both are sent, and the earlier one is found. -/
theorem second_token_is_not_found :
    ∃ r, (((under "http://x" "a").withToken "old").withToken "new").request oneTicket [("id", "7")] .empty none =
      .ok r ∧ r.headers = [("authorization", "Bearer old"), ("authorization", "Bearer new")] ∧
      r.header? "authorization" = some "Bearer old" :=
  ⟨⟨.delete, "http://x/a/7", [], [("authorization", "Bearer old"), ("authorization", "Bearer new")], none⟩,
    by decide +kernel, rfl, by decide +kernel⟩

end Site

end BoxOffice.Client
