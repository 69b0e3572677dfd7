import GeoCatalogue.Proofs.Template.Building
import GeoCatalogue.Proofs.Uri.Grammar

/-!
# Hosts of the URIs of requests

The URI of a web page has to name a host. What the check asks for is an authority that is
not empty – and an authority is more than a host: a user or a port is enough. So
`http://:80/` passes, and so does a template whose host is filled in with nothing.

**A web URI that passes lacks a host exactly if its authority is user information and a
port, and nothing between them** (`Uri.namesHost_iff`). This is said of every text that is
checked and of every text that is built, since what is built is checked.
-/
namespace GeoCatalogue.Uri

variable {cs : List Char} {uri : String}

/-! ## Authorities without a host -/

/-- **An authority without a host**: user information and a port. -/
inductive IsHostless : List Char → Prop where
  /-- The port follows at once. -/
  | joined {user tail : List Char} (information : IsUserInfo user)
      (port : IsPort IsReadablePort tail) : IsHostless (user ++ tail)

theorem IsAddress.ne_nil (h : IsAddress cs) : cs ≠ [] := by
  rintro rfl
  rcases h with ipv6 | future
  · cases ipv6.colon_mem
  · cases future

/-- **The host of an accepted authority is empty** exactly if it has none. Brackets have an
address between them, and without brackets the host is what stands in front of the
port. -/
theorem host_eq_nil_iff (h : IsAuthority IsReadablePort cs) : host cs = [] ↔ IsHostless cs := by
  constructor
  · intro empty
    rcases h with ⟨information, last, first, free, port⟩ | ⟨information, last, -, -, h⟩
    · next user name tail =>
      have unopened : '[' ∉ name :=
        fun mem => (free '[' (List.mem_append_right user mem)).1 rfl
      rw [(host_append information last first unopened port).1] at empty
      rw [empty, List.nil_append]
      exact .joined information port
    · obtain ⟨-, address, -⟩ := checked_of_isBracketed (hostAndPort_append information last) h
      exact absurd empty address.ne_nil
  · rintro ⟨information, port⟩
    exact (host_append information List.not_mem_nil List.not_mem_nil List.not_mem_nil port).1

/-! ## URIs without a host -/

/-- **A web URI without a host.** -/
inductive LacksHost : List Char → Prop where
  /-- The scheme is one of web pages, and there is no host in the authority. -/
  | web {scheme cs rest : List Char} (named : IsScheme scheme)
      (needed : needsHost scheme = true) (hostless : IsHostless cs)
      (free : ∀ c ∈ cs, c ≠ '/' ∧ c ≠ '?' ∧ c ≠ '#') (ends : IsBehindAuthority rest) :
      LacksHost (scheme ++ ':' :: '/' :: '/' :: (cs ++ rest))

/-- **A URI names a host**, if it is one of a web page. -/
def NamesHost (uri : String) : Prop :=
  ∀ scheme rest, scheme? (withoutLineEnd uri.toList) = some (scheme, rest) →
    needsHost scheme = true → host (authority rest) ≠ []

/-- **A URI of a request**, however it came about. -/
inductive IsObtained : String → Prop where
  /-- It passed the check. -/
  | checked {text uri : String} (h : request text = .ok uri) : IsObtained uri
  /-- It was built from a template, with some values. -/
  | built {r : Registry} {t : UrlTemplate} {values : Values} {uri : String}
      (h : r.build t values = .ok uri) : IsObtained uri

theorem IsObtained.accepted (h : IsObtained uri) : checkChars uri.toList = .ok () := by
  cases h with
  | checked h =>
    obtain ⟨rfl, accepted⟩ := request_eq_ok.mp h
    exact accepted
  | built h => exact (request_eq_ok.mp (Registry.request_of_build h)).2

/-- **A URI of a request names a host exactly if it is not a web URI without one.** -/
theorem namesHost_iff (h : IsObtained uri) :
    NamesHost uri ↔ ¬ LacksHost (withoutLineEnd uri.toList) := by
  obtain ⟨-, -, parts⟩ := checkChars_eq_ok.mp h.accepted
  unfold NamesHost
  generalize withoutLineEnd uri.toList = cs at parts ⊢
  constructor
  · rintro names ⟨named, needed, hostless, free, ends⟩
    obtain ⟨scheme, rest, found, accepted, -⟩ := checkParts_eq_ok.mp parts
    obtain ⟨rfl, rfl⟩ := Prod.mk.inj (Option.some.inj
      (found.symm.trans (scheme?_eq_some.mpr ⟨rfl, isScheme_iff.mpr named⟩)))
    rw [authority_append_rest free ends] at accepted
    refine names _ _ found needed ?_
    rw [authority_append_rest free ends]
    exact (host_eq_nil_iff (checkAuthority_eq_ok.mp accepted)).mpr hostless
  · intro names scheme rest found needed empty
    obtain ⟨scheme', rest', found', behind⟩ := checkParts_eq_ok.mp parts
    obtain ⟨rfl, rfl⟩ := Prod.mk.inj (Option.some.inj (found.symm.trans found'))
    obtain ⟨rfl, named⟩ := scheme?_eq_some.mp found
    rcases isBehindScheme_iff.mp behind with ⟨-, unneeded⟩ | ⟨accepted, free, ends, -⟩
    · exact unneeded needed
    · rw [authority_append_rest free ends] at empty
      exact names (.web (isScheme_iff.mp named) needed ((host_eq_nil_iff accepted).mp empty)
        free ends)

theorem isObtained_of_checkChars (h : checkChars uri.toList = .ok ()) : IsObtained uri :=
  .checked (request_eq_ok.mpr ⟨rfl, h⟩)

/-- An address behind a user is a host; a user in front of a port is none. -/
theorem namesHost_iff_user :
    IsObtained "HTTPS://u@[::1]:443" ∧ ¬ LacksHost "HTTPS://u@[::1]:443".toList ∧
      IsObtained "http://u@:80/" ∧ LacksHost "http://u@:80/".toList := by
  have named : IsObtained "HTTPS://u@[::1]:443" :=
    isObtained_of_checkChars (by decide +kernel)
  have unnamed : IsObtained "http://u@:80/" := isObtained_of_checkChars (by decide +kernel)
  refine ⟨named, (namesHost_iff named).mp ?_, unnamed, ?_⟩
  · intro scheme rest found needed
    obtain ⟨rfl, rfl⟩ : "HTTPS".toList = scheme ∧ "//u@[::1]:443".toList = rest :=
      Prod.mk.inj (Option.some.inj found)
    decide
  · by_contra no
    exact (namesHost_iff unnamed).mpr no "http".toList "//u@:80/".toList (by decide)
      (by decide) (by decide)

/-- A port with a host that is filled in. -/
def portTemplate : UrlTemplate where
  serial := 1
  template := "http://{host}:80/"

/-- A port is let through without a host, also if the host was filled in with nothing. -/
theorem not_namesHost_port :
    request "http://:80/" = .ok "http://:80/" ∧
      Registry.build {} portTemplate [(⟨Vocabulary.openSearch, "host"⟩, "")]
        = .ok "http://:80/" ∧
      ¬ NamesHost "http://:80/" := by
  refine ⟨by decide +kernel, by decide +kernel, fun names => ?_⟩
  exact names "http".toList "//:80/".toList (by decide) (by decide) (by decide)

end GeoCatalogue.Uri
