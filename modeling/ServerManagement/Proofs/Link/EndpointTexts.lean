import ServerManagement.Link.Endpoint
import ServerManagement.Proofs.Decimal.SignedReading

/-!
What the text of an endpoint tells. The path begins with a slash, whatever paths were set; hosts
have no slash and ports no colon, so that the text can be taken apart again: transport, host, port
and path are those that it was made of, up to the brackets around a host with colons.
-/

set_option autoImplicit false

namespace ServerManagement

/-! ## Texts with a separator -/

section Separators

variable {α : Type} {separator : α} {front back other rest : List α}

theorem append_cons_inj_first (noneFront : separator ∉ front) (noneOther : separator ∉ other) :
    front ++ separator :: back = other ++ separator :: rest ↔ front = other ∧ back = rest := by
  constructor
  · intro same
    -- Were one front longer, the separator after the other would stand in it.
    rcases List.append_eq_append_iff.mp same with ⟨gap, rfl, tail⟩ | ⟨gap, rfl, tail⟩
    · cases gap with
      | nil => exact ⟨(List.append_nil front).symm, (List.cons.inj tail).2⟩
      | cons c gap =>
          obtain ⟨rfl, _⟩ := List.cons.inj tail
          exact absurd (List.mem_append_right front List.mem_cons_self) noneOther
    · cases gap with
      | nil => exact ⟨List.append_nil other, (List.cons.inj tail).2.symm⟩
      | cons c gap =>
          obtain ⟨rfl, _⟩ := List.cons.inj tail
          exact absurd (List.mem_append_right other List.mem_cons_self) noneFront
  · intro same
    rw [same.1, same.2]

theorem append_cons_inj_last (noneBack : separator ∉ back) (noneRest : separator ∉ rest) :
    front ++ separator :: back = other ++ separator :: rest ↔ front = other ∧ back = rest := by
  have turned : back.reverse ++ separator :: front.reverse =
      rest.reverse ++ separator :: other.reverse ↔
        back.reverse = rest.reverse ∧ front.reverse = other.reverse := by
    apply append_cons_inj_first
    · exact mt List.mem_reverse.mp noneBack
    · exact mt List.mem_reverse.mp noneRest
  rw [List.reverse_inj, List.reverse_inj, and_comm] at turned
  rw [← turned, ← List.reverse_inj]
  simp only [List.reverse_append, List.reverse_cons, List.append_assoc, List.singleton_append]

end Separators

namespace ClientOptions

variable {options left right : ClientOptions} {path host url leftHost rightHost : String}
  {port leftPort rightPort : UInt16} {paths earlier later : List String}

/-! ## Paths -/

theorem withPath_of_filled (filled : path ≠ "") :
    options.withPath path =
      { options with path := if path.toList.head? = some '/' then path else "/" ++ path } :=
  if_neg filled

/-- A path that begins with a slash is replaced by such a one. -/
theorem head?_withPath (slash : options.path.toList.head? = some '/') (path : String) :
    (options.withPath path).path.toList.head? = some '/' := by
  by_cases empty : path = ""
  · rwa [withPath, if_pos empty]
  · rw [withPath_of_filled empty]
    dsimp only
    split
    · rename_i already
      exact already
    · rw [String.toList_append]
      rfl

theorem head?_foldl_withPath (slash : options.path.toList.head? = some '/') (paths : List String) :
    (paths.foldl withPath options).path.toList.head? = some '/' := by
  induction paths generalizing options with
  | nil => exact slash
  | cons path paths ih => exact ih (head?_withPath slash path)

theorem foldl_withPath_of_empty (empty : ∀ path ∈ paths, path = "") :
    paths.foldl withPath options = options := by
  induction paths with
  | nil => rfl
  | cons path paths ih =>
      obtain ⟨rfl, rest⟩ := List.forall_mem_cons.mp empty
      exact ih rest

/-- The last path that is not empty is the one that stays. -/
theorem path_foldl_withPath (filled : path ≠ "") (empty : ∀ given ∈ later, given = "") :
    ((earlier ++ path :: later).foldl withPath options).path =
      if path.toList.head? = some '/' then path else "/" ++ path := by
  rw [List.foldl_append, List.foldl_cons, foldl_withPath_of_empty empty, withPath_of_filled filled]

/-! ## Hosts -/

/-- One host is the other in brackets, as they are put around a host with colons that has none. -/
def Bracketed (bare full : String) : Prop :=
  ':' ∈ bare.toList ∧ bare.toList.head? ≠ some '[' ∧ full = "[" ++ bare ++ "]"

/-- The hosts are equal up to brackets. -/
def SameHost (left right : String) : Prop :=
  left = right ∨ Bracketed left right ∨ Bracketed right left

theorem hostText_of_bracketed {bare full : String} (bracketed : Bracketed bare full) :
    hostText bare = full ∧ hostText full = full := by
  obtain ⟨colon, bracket, rfl⟩ := bracketed
  refine ⟨if_pos ⟨colon, bracket⟩, if_neg fun ⟨_, bracket⟩ => bracket ?_⟩
  rw [String.toList_append, String.toList_append]
  rfl

theorem hostText_eq_iff : hostText leftHost = hostText rightHost ↔ SameHost leftHost rightHost := by
  constructor
  · intro same
    unfold hostText at same
    split at same
    · rename_i colon
      split at same
      · have chars := congrArg String.toList same
        simp only [String.toList_append] at chars
        exact .inl (String.toList_inj.mp (List.append_cancel_left (List.append_cancel_right chars)))
      · exact .inr (.inl ⟨colon.1, colon.2, same.symm⟩)
    · split at same
      · rename_i colon
        exact .inr (.inr ⟨colon.1, colon.2, same⟩)
      · exact .inl same
  · intro same
    rcases same with equal | bracketed | bracketed
    · rw [equal]
    · obtain ⟨bare, full⟩ := hostText_of_bracketed bracketed
      exact bare.trans full.symm
    · obtain ⟨bare, full⟩ := hostText_of_bracketed bracketed
      exact full.trans bare.symm

theorem slash_not_mem_hostText (noSlash : '/' ∉ host.toList) : '/' ∉ (hostText host).toList := by
  unfold hostText
  split
  · rw [String.toList_append, String.toList_append]
    simp [noSlash]
  · exact noSlash

/-! ## Endpoints -/

def schemeChars (secure : Bool) : List Char := if secure then ['w', 's', 's'] else ['w', 's']

theorem colon_not_mem_schemeChars (secure : Bool) : ':' ∉ schemeChars secure := by
  cases secure <;> decide

theorem schemeChars_inj {left right : Bool} :
    schemeChars left = schemeChars right ↔ left = right := by
  cases left <;> cases right <;> decide

/-- The parts of an endpoint's text. -/
theorem endpoint_eq_ok_iff :
    options.endpoint host port = .ok url ↔ host ≠ "" ∧ port ≠ 0 ∧
      url.toList = schemeChars options.secure ++ ':' :: ("//".toList ++
        ((hostText host).toList ++ ':' :: Decimal.digits port.toNat ++ options.path.toList)) := by
  unfold endpoint
  split
  · rename_i missing
    exact iff_of_false nofun fun ⟨named, _⟩ => named missing
  · rename_i named
    split
    · rename_i zero
      exact iff_of_false nofun fun ⟨_, numbered, _⟩ => numbered zero
    · rename_i numbered
      have scheme : (if options.secure then "wss" else "ws").toList =
          schemeChars options.secure := by
        cases options.secure <;> rfl
      have mark : "://".toList = ':' :: "//".toList := rfl
      have colon : ":".toList = [':'] := rfl
      rw [Except.ok.injEq, ← String.toList_inj, eq_comm]
      simp only [String.toList_append, String.toList_ofList, scheme, mark, colon, List.append_assoc,
        List.cons_append, List.nil_append, ne_eq, named, numbered, not_false_eq_true, true_and]

theorem exists_endpoint_iff :
    (∃ url, options.endpoint host port = .ok url) ↔ host ≠ "" ∧ port ≠ 0 := by
  constructor
  · intro ⟨url, made⟩
    obtain ⟨named, numbered, _⟩ := endpoint_eq_ok_iff.mp made
    exact ⟨named, numbered⟩
  · intro ⟨named, numbered⟩
    exact ⟨String.ofList _, endpoint_eq_ok_iff.mpr ⟨named, numbered, String.toList_ofList⟩⟩

/-- The first colon ends the transport, the first slash after it and its mark begins the path, and
the last colon in front of the path separates host and port. -/
theorem endpoint_eq_iff (leftSlash : left.path.toList.head? = some '/')
    (rightSlash : right.path.toList.head? = some '/') (leftBare : '/' ∉ leftHost.toList)
    (rightBare : '/' ∉ rightHost.toList) {leftUrl rightUrl : String}
    (leftMade : left.endpoint leftHost leftPort = .ok leftUrl)
    (rightMade : right.endpoint rightHost rightPort = .ok rightUrl) :
    leftUrl = rightUrl ↔ left.secure = right.secure ∧ leftPort = rightPort ∧
      left.path = right.path ∧ SameHost leftHost rightHost := by
  obtain ⟨_, _, leftText⟩ := endpoint_eq_ok_iff.mp leftMade
  obtain ⟨_, _, rightText⟩ := endpoint_eq_ok_iff.mp rightMade
  obtain ⟨leftTail, leftPath⟩ := List.head?_eq_some_iff.mp leftSlash
  obtain ⟨rightTail, rightPath⟩ := List.head?_eq_some_iff.mp rightSlash
  have row (port : UInt16) := Decimal.digitRow_digits port.toNat
  have noSlash {host : String} (bare : '/' ∉ host.toList) (port : UInt16) :
      '/' ∉ (hostText host).toList ++ ':' :: Decimal.digits port.toNat := by
    rw [List.mem_append, List.mem_cons, not_or, not_or]
    exact ⟨slash_not_mem_hostText bare, by decide, (row port).not_mem rfl⟩
  have paths : left.path = right.path ↔ leftTail = rightTail := by
    rw [← String.toList_inj, leftPath, rightPath, List.cons.injEq, eq_self, true_and]
  rw [paths, ← String.toList_inj, leftText, rightText,
    append_cons_inj_first (colon_not_mem_schemeChars _) (colon_not_mem_schemeChars _),
    List.append_cancel_left_eq, leftPath, rightPath,
    append_cons_inj_first (noSlash leftBare _) (noSlash rightBare _),
    append_cons_inj_last ((row _).not_mem rfl) ((row _).not_mem rfl), schemeChars_inj,
    String.toList_inj, hostText_eq_iff, Decimal.digits_inj, UInt16.toNat_inj]
  constructor
  · intro ⟨secure, ⟨host, port⟩, path⟩
    exact ⟨secure, port, path, host⟩
  · intro ⟨secure, port, path, host⟩
    exact ⟨secure, ⟨host, port⟩, path⟩

/-- Whatever paths are set, one after the other, the path begins with a slash: it is the last of
them that is not empty, with a slash in front if it had none, and a mere slash if there is no such.
There is an endpoint for every host that is not empty and every port but nought. When hosts have no
slash, endpoints are equal exactly if transport, port and path are, and the hosts up to brackets. -/
theorem endpoint_unambiguous :
    (∀ paths : List String, (paths.foldl withPath standard).path.toList.head? = some '/' ∧
      ((∀ given ∈ paths, given = "") → (paths.foldl withPath standard).path = "/") ∧
      ∀ earlier path later, paths = earlier ++ path :: later → path ≠ "" →
        (∀ given ∈ later, given = "") → (paths.foldl withPath standard).path =
          if path.toList.head? = some '/' then path else "/" ++ path) ∧
    (∀ (options : ClientOptions) (host : String) (port : UInt16),
      (∃ url, options.endpoint host port = .ok url) ↔ host ≠ "" ∧ port ≠ 0) ∧
    ∀ (left right : ClientOptions) (leftPaths rightPaths : List String),
      left.path = (leftPaths.foldl withPath standard).path →
      right.path = (rightPaths.foldl withPath standard).path →
      ∀ leftHost rightHost : String, '/' ∉ leftHost.toList → '/' ∉ rightHost.toList →
      ∀ (leftPort rightPort : UInt16) (leftUrl rightUrl : String),
        left.endpoint leftHost leftPort = .ok leftUrl →
        right.endpoint rightHost rightPort = .ok rightUrl →
        (leftUrl = rightUrl ↔ left.secure = right.secure ∧ leftPort = rightPort ∧
          left.path = right.path ∧ SameHost leftHost rightHost) := by
  have slash (paths : List String) :
      (paths.foldl withPath standard).path.toList.head? = some '/' :=
    head?_foldl_withPath (by decide) paths
  refine ⟨fun paths => ⟨slash paths, fun empty => ?_, ?_⟩, fun _ _ _ => exists_endpoint_iff, ?_⟩
  · rw [foldl_withPath_of_empty empty]
    rfl
  · rintro earlier path later rfl filled empty
    exact path_foldl_withPath filled empty
  · intro left right leftPaths rightPaths leftPath rightPath leftHost rightHost leftBare rightBare
      leftPort rightPort leftUrl rightUrl
    exact endpoint_eq_iff (leftPath ▸ slash leftPaths) (rightPath ▸ slash rightPaths) leftBare
      rightBare

/-- A host with colons has the endpoint of the same host in brackets. -/
theorem endpoint_unambiguous_of_colons :
    let left := (["mgmt", ""].foldl withPath standard).withSecure true
    let right := (["", "/mgmt"].foldl withPath standard).withSecure true
    left.path = "/mgmt" ∧ left.endpoint "::1" 443 = .ok "wss://[::1]:443/mgmt" ∧
      right.endpoint "[::1]" 443 = .ok "wss://[::1]:443/mgmt" ∧ SameHost "::1" "[::1]" := by
  intro left right
  have leftMade : left.endpoint "::1" 443 = .ok "wss://[::1]:443/mgmt" :=
    endpoint_eq_ok_iff.mpr ⟨by decide, by decide, by decide +kernel⟩
  have rightMade : right.endpoint "[::1]" 443 = .ok "wss://[::1]:443/mgmt" :=
    endpoint_eq_ok_iff.mpr ⟨by decide, by decide, by decide +kernel⟩
  obtain ⟨_, _, _, same⟩ := (endpoint_unambiguous.2.2 left right ["mgmt", ""] ["", "/mgmt"] rfl rfl
    "::1" "[::1]" (by decide) (by decide) 443 443 _ _ leftMade rightMade).mp rfl
  exact ⟨(endpoint_unambiguous.1 ["mgmt", ""]).2.2 [] "mgmt" [""] rfl (by decide)
    (by decide), leftMade, rightMade, same⟩

end ClientOptions

end ServerManagement
