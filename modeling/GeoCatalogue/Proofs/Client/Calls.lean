import GeoCatalogue.Client
import GeoCatalogue.Proofs.Description.Urls

/-!
# What a client asks, and which description it uses

A client is asked for the description of its service and for searches, in any
order, and the service may reply whatever it likes: nothing, an error, something
that is no document, or a document that is no description.

Asking for the description is the beginning of every call, and it can end in few
ways (`Reloaded`). Of all of them only the one where the reply has been read to the
end puts a description in place. What a call does to a client is therefore said by
two lists, the descriptions that it reads and the requests that it sends
(`Moves`). One after the other, calls add up (`Moves.run`): **the description in
use is the last one that was read, and the requests are those that the calls have
sent** (`run_follows_protocol`).
-/
namespace GeoCatalogue

open Xml

namespace Description

variable {serial first : Nat} {root : Element} {d : Description}

/-- A description has the templates of its document. -/
theorem templates_of_ofElement (h : ofElement serial first root = .ok d) :
    d.serial = serial ∧ d.templates = templatesOf first root := by
  obtain ⟨registry, registered, h⟩ := Except.bind_eq_ok.mp h
  obtain rfl := Except.ok.inj h
  obtain ⟨templates, -⟩ := Registry.exists_of_foldlM_register registered
    (pairwise_templatesOf first root) fun t mem => absurd mem List.not_mem_nil
  exact ⟨rfl, templates⟩

theorem map_serial_templatesOf (first : Nat) (root : Element) :
    (templatesOf first root).map UrlTemplate.serial
      = List.range' first (templatesOf first root).length := by
  refine List.ext_getElem (by simp) fun i hi _ => ?_
  simp [templatesOf, templateOf]

end Description

namespace Client

/-! ## Calls -/

/-- **What a client is asked for.** -/
inductive Call where
  /-- The description, fetched anew if that is forced. -/
  | describe (force : Bool)
  /-- A search. -/
  | search (t : UrlTemplate) (values : Values)

/-- Whether a call forces a fetch of the description. -/
def Call.forces : Call → Bool
  | .describe force => force
  | .search _ _ => false

/-- The client after a call. -/
def Call.next (service : Service) (c : Client) : Call → Client
  | .describe force => (c.describe service force).client
  | .search t values => (c.search service t values).client

/-- The requests that a call sends. -/
def Call.sent (service : Service) (c : Client) : Call → List Request
  | .describe force => (c.describe service force).requests
  | .search t values => (c.search service t values).requests

/-- Whether a description has to be fetched. -/
def IsDue (c : Client) (force : Bool) : Prop :=
  c.description = none ∨ force = true

instance (c : Client) (force : Bool) : Decidable (c.IsDue force) :=
  inferInstanceAs (Decidable (c.description = none ∨ force = true))

/-- The descriptions that a request for the description reads: one, or none. -/
def fetched (service : Service) (c : Client) (force : Bool) : List Description :=
  if c.IsDue force then (c.reload service).result.toOption.toList else []

/-- The descriptions that a call reads. -/
def Call.read (service : Service) (c : Client) (call : Call) : List Description :=
  c.fetched service call.forces

/-- **The client after some calls.** -/
def run (service : Service) (c : Client) (calls : List Call) : Client :=
  calls.foldl (fun c call => call.next service c) c

/-- The requests that some calls send, in order. -/
def sent (service : Service) (c : Client) : List Call → List Request
  | [] => []
  | call :: calls => call.sent service c ++ sent service (call.next service c) calls

/-- The descriptions that some calls read, in order. -/
def read (service : Service) (c : Client) : List Call → List Description
  | [] => []
  | call :: calls => call.read service c ++ read service (call.next service c) calls

/-- The request for the description. -/
def descriptionRequest (c : Client) : Request :=
  c.request c.url descriptionType

/-- The client after a request. -/
def after (c : Client) (r : Request) : Client :=
  { c with history := c.history ++ [r] }

variable {service : Service} {c mid next : Client} {force : Bool} {t : UrlTemplate}
  {values : Values}

/-- The document that a reply brings. -/
def documentIn (reply : Reply) : Except Fault Element :=
  match reply.body with
  | .error defect => .error (.reply defect)
  | .ok body =>
    match Element.parse body with
    | .error defect => .error (.document defect)
    | .ok root => .ok root

/-- A reply brings a document if it has a body, and the body is that document. -/
theorem documentIn_eq_ok {reply : Reply} {root : Element} :
    documentIn reply = .ok root ↔
      ∃ body, reply.body = .ok body ∧ Element.parse body = .ok root := by
  unfold documentIn
  cases answered : reply.body with
  | error defect => simp
  | ok body => cases parsed : Element.parse body <;> simp [parsed]

/-- **A description that a client fetches to the end**: the reply to the request for
it is a body, the body is a document, and the document is the description. -/
def Fetches (service : Service) (c : Client) (d : Description) : Prop :=
  ∃ body root, (service c.history c.descriptionRequest).body = .ok body ∧
    Element.parse body = .ok root ∧
    Description.ofElement c.descriptions c.templates root = .ok d

/-! ## Asking for the description -/

/-- **The ways in which fetching a description ends.** -/
inductive Reloaded (service : Service) (c : Client) : Exchange Description → Prop where
  /-- The reply brings no document. -/
  | unread {fault : Fault} {records : List Journal.Record}
      (broken : documentIn (service c.history c.descriptionRequest) = .error fault) :
      Reloaded service c
        ⟨.error fault, c.after c.descriptionRequest, [c.descriptionRequest], records⟩
  /-- The document is no description. -/
  | undescribed {root : Element} {cause : Failure} {records : List Journal.Record}
      (brought : documentIn (service c.history c.descriptionRequest) = .ok root)
      (broken : Description.ofElement c.descriptions c.templates root = .error cause) :
      Reloaded service c
        ⟨.error (.failure cause), c.after c.descriptionRequest,
          [c.descriptionRequest], records⟩
  /-- A description is read. -/
  | read {root : Element} {d : Description} {records : List Journal.Record}
      (brought : documentIn (service c.history c.descriptionRequest) = .ok root)
      (described : Description.ofElement c.descriptions c.templates root = .ok d) :
      Reloaded service c
        ⟨.ok d, (c.after c.descriptionRequest).use d, [c.descriptionRequest], records⟩

theorem exists_fetch_eq (service : Service) (c : Client) (url accept : String) :
    let r := c.request url accept
    ∃ records, c.fetch service url accept
      = ⟨(service c.history r).body.mapError .reply, c.after r, [r], records⟩ := by
  dsimp only [fetch]
  split
  · next body answered => exact ⟨_, by rw [answered]; rfl⟩
  · next defect answered => exact ⟨_, by rw [answered]; rfl⟩

/-- **Every fetch of a description ends in one of these ways.** All that is said of a client
below is read off from here: each way names the request that is sent, what comes of it, and
the client that goes on. -/
theorem reloaded (service : Service) (c : Client) :
    Reloaded service c (c.reload service) := by
  obtain ⟨records, fetched⟩ := exists_fetch_eq service c c.url descriptionType
  unfold reload
  rw [fetched]
  cases answered : (service c.history (c.request c.url descriptionType)).body with
  | error defect =>
    refine .unread ?_
    rw [documentIn, descriptionRequest, answered]
  | ok body =>
    simp only [Except.mapError, Exchange.andThen, readDescription]
    cases parsed : Element.parse body with
    | error defect =>
      refine .unread ?_
      rw [documentIn, descriptionRequest, answered]
      simp only [parsed]
    | ok root =>
      have brought : documentIn (service c.history c.descriptionRequest) = .ok root :=
        documentIn_eq_ok.mpr ⟨body, answered, parsed⟩
      dsimp only
      -- the request has not changed how many descriptions have been read
      cases described : Description.ofElement
          (c.after (c.request c.url descriptionType)).descriptions
          (c.after (c.request c.url descriptionType)).templates root with
      | error cause => exact .undescribed brought described
      | ok d => exact .read brought described

@[simp] theorem requests_reload (service : Service) (c : Client) :
    (c.reload service).requests = [c.descriptionRequest] := by
  have reloaded := reloaded service c
  generalize c.reload service = x at reloaded ⊢
  cases reloaded <;> rfl

/-- A description that has to be fetched is fetched. -/
theorem describe_of_isDue (service : Service) (due : c.IsDue force) :
    c.describe service force = c.reload service := by
  unfold describe
  rcases due with none | rfl
  · rw [none]
  · cases c.description with
    | none => rfl
    | some d => rfl

theorem describe_of_inUse (service : Service) {d : Description}
    (inUse : c.description = some d) :
    c.describe service false = ⟨.ok d, c, [], []⟩ := by
  rw [describe, inUse]
  rfl

/-- A description that need not be fetched is in use. -/
theorem describe_of_not_isDue (service : Service) (free : ¬ c.IsDue force) :
    ∃ d, c.description = some d ∧ c.describe service force = ⟨.ok d, c, [], []⟩ := by
  obtain ⟨used, unforced⟩ := not_or.mp free
  obtain ⟨d, inUse⟩ := Option.ne_none_iff_exists'.mp used
  obtain rfl := Bool.eq_false_iff.mpr unforced
  exact ⟨d, inUse, describe_of_inUse service inUse⟩

/-- A request for the description sends one request exactly if it has to fetch
it. -/
theorem requests_describe (service : Service) (c : Client) (force : Bool) :
    (c.describe service force).requests
      = if c.description = none ∨ force = true then [c.descriptionRequest] else [] := by
  by_cases due : c.IsDue force
  · rw [describe_of_isDue service due, requests_reload]
    exact (if_pos due).symm
  · obtain ⟨d, -, given⟩ := describe_of_not_isDue service due
    rw [given]
    exact (if_neg due).symm

/-- **A fetch gives a description exactly if the client fetches it to the end**: the service
answers without an error status, the body is a document, and a description can be made of
it. The description of a reply with an error status is not read at all. -/
theorem describe_eq_ok_iff (due : c.IsDue force) {d : Description} :
    (c.describe service force).result = .ok d ↔ c.Fetches service d := by
  have reloaded := reloaded service c
  rw [describe_of_isDue service due]
  generalize c.reload service = x at reloaded ⊢
  constructor
  · intro h
    cases reloaded with
    | unread broken => cases h
    | undescribed brought broken => cases h
    | @read root found records brought described =>
      obtain rfl := Except.ok.inj h
      obtain ⟨body, answered, parsed⟩ := documentIn_eq_ok.mp brought
      exact ⟨body, root, answered, parsed, described⟩
  · rintro ⟨body, root, answered, parsed, described⟩
    have brings := documentIn_eq_ok.mpr ⟨body, answered, parsed⟩
    cases reloaded with
    | unread broken =>
      rw [brings] at broken
      cases broken
    | undescribed brought broken =>
      obtain rfl := Except.ok.inj (brings.symm.trans brought)
      rw [described] at broken
      cases broken
    | read brought described' =>
      obtain rfl := Except.ok.inj (brings.symm.trans brought)
      obtain rfl := Except.ok.inj (described'.symm.trans described)
      rfl

/-- What a request for the description gives is in use afterwards. -/
theorem description_of_describe_ok {d : Description}
    (h : (c.describe service force).result = .ok d) :
    (c.describe service force).client.description = some d := by
  by_cases due : c.IsDue force
  · have reloaded := reloaded service c
    rw [describe_of_isDue service due] at h ⊢
    generalize c.reload service = x at reloaded h ⊢
    cases reloaded with
    | unread broken => cases h
    | undescribed brought broken => cases h
    | read brought described =>
      obtain rfl := Except.ok.inj h
      rfl
  · obtain ⟨used, inUse, given⟩ := describe_of_not_isDue service due
    rw [given] at h ⊢
    obtain rfl := Except.ok.inj h
    exact inUse

/-- A request for the description that fails leaves the description alone. -/
theorem description_of_describe_error {fault : Fault}
    (h : (c.describe service force).result = .error fault) :
    (c.describe service force).client.description = c.description := by
  by_cases due : c.IsDue force
  · have reloaded := reloaded service c
    rw [describe_of_isDue service due] at h ⊢
    generalize c.reload service = x at reloaded h ⊢
    cases reloaded with
    | unread broken => rfl
    | undescribed brought broken => rfl
    | read brought described => cases h
  · obtain ⟨d, -, given⟩ := describe_of_not_isDue service due
    rw [given]

/-- The descriptions that a request reads are fetched to the end. -/
theorem fetches_of_mem_fetched {d : Description} (mem : d ∈ c.fetched service force) :
    c.Fetches service d := by
  unfold fetched at mem
  split at mem
  · next due =>
    rw [← describe_of_isDue service due] at mem
    cases given : (c.describe service force).result with
    | error fault =>
      rw [given] at mem
      cases mem
    | ok found =>
      rw [given] at mem
      obtain rfl := List.mem_singleton.mp mem
      exact (describe_eq_ok_iff due).mp given
  · cases mem

/-! ## Searches -/

/-- **The ways in which a search ends**, behind the request for the description. -/
inductive Searched (service : Service) (t : UrlTemplate) (values : Values)
    (x : Exchange Description) : Exchange Element → Prop where
  /-- There is no description. -/
  | undescribed {fault : Fault} (broken : x.result = .error fault) :
      Searched service t values x ⟨.error fault, x.client, x.requests, x.records⟩
  /-- The request cannot be built. -/
  | unbuilt {d : Description} {cause : Failure} {records : List Journal.Record}
      (found : x.result = .ok d) (broken : d.registry.build t values = .error cause) :
      Searched service t values x
        ⟨.error (.failure cause), x.client, x.requests, records⟩
  /-- The request is built and sent. -/
  | sent {d : Description} {uri : String} {records : List Journal.Record}
      (found : x.result = .ok d) (built : d.registry.build t values = .ok uri) :
      Searched service t values x
        ⟨documentIn (service x.client.history (x.client.request uri (accepted t))),
          x.client.after (x.client.request uri (accepted t)),
          x.requests ++ [x.client.request uri (accepted t)], records⟩

/-- What comes of a request for a document. -/
theorem exists_search_eq (service : Service) (c : Client) (url accept : String) :
    let r := c.request url accept
    ∃ records, (c.fetch service url accept).andThen readDocument
      = ⟨documentIn (service c.history r), c.after r, [r], records⟩ := by
  intro r
  obtain ⟨records, fetched⟩ := exists_fetch_eq service c url accept
  rw [fetched, documentIn]
  cases (service c.history r).body with
  | error defect => exact ⟨_, rfl⟩
  | ok body =>
    simp only [Exchange.andThen, Except.mapError, readDocument]
    cases Element.parse body with
    | error defect => exact ⟨_, rfl⟩
    | ok root => exact ⟨_, rfl⟩

/-- **Every search ends in one of these ways.** -/
theorem searched (service : Service) (c : Client) (t : UrlTemplate) (values : Values) :
    Searched service t values (c.describe service false) (c.search service t values) := by
  unfold search Exchange.andThen
  generalize c.describe service false = x
  cases found : x.result with
  | error fault => exact .undescribed found
  | ok d =>
    cases built : d.registry.build t values with
    | error cause =>
      simp only [searchIn, built, List.append_nil]
      exact .unbuilt found built
    | ok uri =>
      obtain ⟨records, fetched⟩ := exists_search_eq service x.client uri (accepted t)
      simp only [searchIn, built, fetched]
      exact .sent found built

/-- A search leaves the description that the request for it leaves. -/
theorem description_search (service : Service) (c : Client) (t : UrlTemplate)
    (values : Values) :
    (c.search service t values).client.description
      = (c.describe service false).client.description := by
  have searched := searched service c t values
  generalize c.search service t values = y at searched ⊢
  cases searched <;> rfl

/-- A search without a description fails as the request for it does. -/
theorem search_of_undescribed {fault : Fault}
    (failed : (c.describe service false).result = .error fault) (t : UrlTemplate)
    (values : Values) :
    (c.search service t values).result = .error fault ∧
      (c.search service t values).requests = (c.describe service false).requests := by
  simp only [search, Exchange.andThen, failed, and_self]

theorem search_of_unbuilt {d : Description}
    (given : (c.describe service false).result = .ok d)
    {cause : Failure} (unbuilt : d.registry.build t values = .error cause) :
    (c.search service t values).result = .error (.failure cause) ∧
      (c.search service t values).requests = (c.describe service false).requests := by
  simp only [search, Exchange.andThen, given, searchIn, unbuilt, List.append_nil, and_self]

/-- **A search that can be built** sends one request, for what has been built. -/
theorem requests_search_of_built {d : Description}
    (given : (c.describe service false).result = .ok d)
    {uri : String} (built : d.registry.build t values = .ok uri) :
    (c.search service t values).requests = (c.describe service false).requests ++
      [(c.describe service false).client.request uri (accepted t)] := by
  have searched := searched service c t values
  generalize c.search service t values = y at searched ⊢
  cases searched with
  | undescribed broken =>
    rw [given] at broken
    cases broken
  | unbuilt found broken =>
    obtain rfl := Except.ok.inj (given.symm.trans found)
    rw [built] at broken
    cases broken
  | sent found built' =>
    obtain rfl := Except.ok.inj (given.symm.trans found)
    obtain rfl := Except.ok.inj (built.symm.trans built')
    rfl

/-! ## What calls do to a client -/

/-- **What is done to a client**, by the descriptions that are read and the requests
that are sent meanwhile, in order. -/
structure Moves (c next : Client) (read : List Description) (sent : List Request) :
    Prop where
  /-- It is a client of the same service. -/
  url : next.url = c.url
  /-- It has the same settings. -/
  settings : next.settings = c.settings
  /-- The last description that was read is in use, or the one from before if none
  was read. -/
  description : next.description = read.getLast?.or c.description
  /-- The requests are those that were sent. -/
  history : next.history = c.history ++ sent
  /-- The descriptions are counted. -/
  descriptions : next.descriptions = c.descriptions + read.length
  /-- The templates are counted. -/
  templates : next.templates
    = c.templates + (read.flatMap Description.templates).length
  /-- The descriptions are numbered on. -/
  serials : read.map Description.serial = List.range' c.descriptions read.length
  /-- The templates are numbered on. -/
  templateSerials :
    (read.flatMap Description.templates).map UrlTemplate.serial
      = List.range' c.templates (read.flatMap Description.templates).length

namespace Moves

variable {read later : List Description} {sent more : List Request}

theorem refl (c : Client) : Moves c c [] [] where
  url := rfl
  settings := rfl
  description := rfl
  history := (List.append_nil _).symm
  descriptions := rfl
  templates := rfl
  serials := rfl
  templateSerials := rfl

/-- What is done one after the other adds up. -/
theorem trans (first : Moves c mid read sent) (second : Moves mid next later more) :
    Moves c next (read ++ later) (sent ++ more) where
  url := second.url.trans first.url
  settings := second.settings.trans first.settings
  description := by
    rw [second.description, first.description, List.getLast?_append, Option.or_assoc]
  history := by rw [second.history, first.history, List.append_assoc]
  descriptions := by
    rw [second.descriptions, first.descriptions, List.length_append, Nat.add_assoc]
  templates := by
    rw [second.templates, first.templates, List.flatMap_append, List.length_append,
      Nat.add_assoc]
  serials := by
    rw [List.map_append, first.serials, second.serials, first.descriptions,
      List.range'_append_1, List.length_append]
  templateSerials := by
    rw [List.flatMap_append, List.map_append, first.templateSerials,
      second.templateSerials, first.templates, List.range'_append_1,
      List.length_append]

theorem after (c : Client) (r : Request) : Moves c (c.after r) [] [r] where
  url := rfl
  settings := rfl
  description := rfl
  history := rfl
  descriptions := rfl
  templates := rfl
  serials := rfl
  templateSerials := rfl

theorem send (first : Moves c next read sent) (r : Request) :
    Moves c (next.after r) read (sent ++ [r]) := by
  have both := first.trans (after next r)
  rwa [List.append_nil] at both

/-- A description that has been read is put in place. -/
theorem use {root : Element} {d : Description}
    (described : Description.ofElement c.descriptions c.templates root = .ok d) :
    Moves c (c.use d) [d] [] := by
  obtain ⟨serial, templates⟩ := Description.templates_of_ofElement described
  have count : d.registry.size = d.templates.length := (List.length_map _).symm
  refine ⟨rfl, rfl, rfl, (List.append_nil _).symm, rfl, ?_, ?_, ?_⟩
  · rw [List.flatMap_singleton, ← count]
    rfl
  · rw [List.map_singleton, serial]
    rfl
  · rw [List.flatMap_singleton, templates]
    exact Description.map_serial_templatesOf c.templates root

/-- **A fetch of the description** sends one request, and reads what it gives. -/
theorem reload (service : Service) (c : Client) :
    Moves c (c.reload service).client (c.reload service).result.toOption.toList
      [c.descriptionRequest] := by
  have reloaded := reloaded service c
  generalize c.reload service = x at reloaded ⊢
  cases reloaded with
  | unread broken => exact after c _
  | undescribed brought broken => exact after c _
  | read brought described => exact (after c _).trans (use described)

theorem request (h : Moves c next read sent) (url accept : String) :
    next.request url accept = c.request url accept := by
  rw [Client.request, h.settings, Client.request]

theorem descriptionRequest (h : Moves c next read sent) :
    next.descriptionRequest = c.descriptionRequest := by
  rw [Client.descriptionRequest, h.url, h.request, Client.descriptionRequest]

theorem nodup_serials (h : Moves c next read sent) :
    (read.map Description.serial).Nodup :=
  h.serials ▸ List.nodup_range'

theorem nodup_templateSerials (h : Moves c next read sent) :
    ((read.flatMap Description.templates).map UrlTemplate.serial).Nodup :=
  h.templateSerials ▸ List.nodup_range'

/-- **A request for the description** reads one if it has to fetch it, and sends
nothing if it need not. -/
theorem describe (service : Service) (c : Client) (force : Bool) :
    Moves c (c.describe service force).client (c.fetched service force)
      (c.describe service force).requests := by
  by_cases due : c.IsDue force
  · rw [describe_of_isDue service due, fetched, if_pos due, requests_reload]
    exact reload service c
  · obtain ⟨d, -, given⟩ := describe_of_not_isDue service due
    rw [given, fetched, if_neg due]
    exact refl c

/-- **A search** reads what the request for the description reads, and sends one
request more at most. -/
theorem search (service : Service) (c : Client) (t : UrlTemplate) (values : Values) :
    Moves c (c.search service t values).client (c.fetched service false)
      (c.search service t values).requests := by
  have first := describe service c false
  have searched := searched service c t values
  generalize c.search service t values = y at searched ⊢
  cases searched with
  | undescribed broken => exact first
  | unbuilt found broken => exact first
  | sent found built => exact first.send _

/-- **Every call** reads and sends what is noted of it. -/
theorem call (service : Service) (c : Client) (call : Call) :
    Moves c (call.next service c) (call.read service c) (call.sent service c) := by
  cases call with
  | describe force => exact describe service c force
  | search t values => exact search service c t values

/-- **Calls add up.** -/
theorem run (service : Service) (c : Client) (calls : List Call) :
    Moves c (Client.run service c calls) (Client.read service c calls)
      (Client.sent service c calls) := by
  induction calls generalizing c with
  | nil => exact refl c
  | cons call calls ih => exact (Moves.call service c call).trans (ih _)

end Moves

/-! ## Runs -/

/-- **Every description that has been read** was fetched to the end by one of the
calls. -/
theorem exists_of_mem_read {d : Description} {calls : List Call}
    (mem : d ∈ read service c calls) :
    ∃ earlier call later, calls = earlier ++ call :: later ∧
      (run service c earlier).Fetches service d := by
  induction calls generalizing c with
  | nil => cases mem
  | cons call calls ih =>
    rcases List.mem_append.mp mem with now | later
    · exact ⟨[], call, calls, rfl, fetches_of_mem_fetched now⟩
    · obtain ⟨earlier, other, after, rfl, fetches⟩ := ih later
      exact ⟨call :: earlier, other, after, rfl, fetches⟩

/-- **What a client asks, and which description it uses.** Let a client be asked for
the description and for searches, in any order, and let the service reply whatever
it likes.

Then the description in use is the last one that was read, or the one from before
if none was read, and the requests are those that the calls have sent. Every
description that was read has been fetched to the end by one of the calls. No two of
them, and no two of all their templates, have the same number.

The next request for the description sends the request for it exactly if there is
none or a fetch is forced, and no other request; otherwise it gives the description
in use. A fetch gives a description exactly if the client fetches it to the end, and
what the request gives is in use then. If it fails, the description is the one from
before.

The next search begins with a request for the description. If that fails, nothing
else is sent. If not, the request is built from the registry of the description
that is in use then: if it cannot be built, nothing else is sent; if it can, one
request is sent, for what has been built. The description stays in use whatever the
reply is. -/
theorem run_follows_protocol (service : Service) (c : Client) (calls : List Call) :
    let last := run service c calls
    let read := read service c calls
    (last.description = read.getLast?.or c.description ∧
      (∀ d ∈ read, ∃ earlier call later, calls = earlier ++ call :: later ∧
        (run service c earlier).Fetches service d) ∧
      last.history = c.history ++ sent service c calls ∧
      last.descriptionRequest = c.descriptionRequest ∧
      (read.map Description.serial).Nodup ∧
      ((read.flatMap Description.templates).map UrlTemplate.serial).Nodup) ∧
    (∀ force,
      let x := last.describe service force
      x.requests = (if last.description = none ∨ force = true then
        [c.descriptionRequest] else []) ∧
      (∀ d, last.description = some d → force = false →
        x.result = .ok d ∧ x.client = last) ∧
      (last.description = none ∨ force = true → ∀ d,
        x.result = .ok d ↔ last.Fetches service d) ∧
      (∀ d, x.result = .ok d → x.client.description = some d) ∧
      ∀ fault, x.result = .error fault →
        x.client.description = last.description) ∧
    ∀ t values,
      let x := last.describe service false
      let y := last.search service t values
      y.client.description = x.client.description ∧
      (∀ fault, x.result = .error fault →
        y.result = .error fault ∧ y.requests = x.requests) ∧
      ∀ d, x.result = .ok d →
        (∀ cause, d.registry.build t values = .error cause →
          y.result = .error (.failure cause) ∧ y.requests = x.requests) ∧
        ∀ uri, d.registry.build t values = .ok uri →
          y.requests = x.requests ++ [c.request uri (accepted t)] := by
  intro last read
  have moves : c.Moves last read (sent service c calls) := Moves.run service c calls
  have asks : last.descriptionRequest = c.descriptionRequest := moves.descriptionRequest
  refine ⟨⟨moves.description, fun d mem => exists_of_mem_read mem, moves.history, asks,
    moves.nodup_serials, moves.nodup_templateSerials⟩, ?_, ?_⟩
  · intro force x
    rw [← asks]
    refine ⟨requests_describe service last force, ?_,
      fun due d => describe_eq_ok_iff due, fun d => description_of_describe_ok,
      fun fault => description_of_describe_error⟩
    rintro d inUse rfl
    show (last.describe service false).result = _ ∧
      (last.describe service false).client = _
    rw [describe_of_inUse service inUse]
    exact ⟨rfl, rfl⟩
  · intro t values x y
    refine ⟨description_search service last t values,
      fun fault failed => search_of_undescribed failed t values, fun d given =>
      ⟨fun cause => search_of_unbuilt given, fun uri built => ?_⟩⟩
    rw [requests_search_of_built given built,
      (Moves.describe service last false).request, moves.request]

/-- A service gives its description once, and refuses to give it anew: the status is that
of a refusal, though the description comes with it. The one from before stays in use; a
search that cannot be built with it sends nothing, and one that can sends one request. -/
theorem run_follows_protocol_refused :
    let service : Service := fun history _ =>
      .answered (if history.isEmpty then 200 else 503) Description.nestedText
    let c : Client :=
      ⟨"http://example.org/description", Settings.packaged, none, [], 0, 0⟩
    let last := run service c [.describe false, .describe true]
    let counting : UrlTemplate := ⟨0, "http://example.org/{count}", "", "", {}, []⟩
    let plain : UrlTemplate := ⟨1, "http://example.org/", "", "", {}, []⟩
    ∃ d, Description.ofElement 0 0 Description.nestedDocument = .ok d ∧
      last.description = some d ∧
      last.history = [c.descriptionRequest, c.descriptionRequest] ∧
      (last.search service counting []).requests = [] ∧
      (last.search service plain []).requests
        = [c.request "http://example.org/" "application/xml"] := by
  intro service c last counting plain
  have fine : (Description.ofElement 0 0 Description.nestedDocument).isOk = true := by
    decide +kernel
  obtain ⟨d, described⟩ := Except.exists_of_isOk fine
  have whole : c.Fetches service d :=
    ⟨Description.nestedText, _, rfl, Description.parse_nestedText, described⟩
  -- the first call fetches the description
  have first := (run_follows_protocol service c []).2.1 false
  rw [show run service c [] = c from rfl] at first
  obtain ⟨asks, -, fetches, used, -⟩ := first
  have asked : (c.describe service false).requests = [c.descriptionRequest] :=
    asks.trans (if_pos (.inl rfl))
  have inUse := used d ((fetches (.inl rfl) d).mpr whole)
  -- the second one is refused, so the description stays
  obtain ⟨mid, hmid⟩ : ∃ mid, mid = (c.describe service false).client := ⟨_, rfl⟩
  rw [← hmid] at inUse
  have arrived : run service c [.describe false] = mid := by
    rw [run, List.foldl_cons, List.foldl_nil, Call.next, hmid]
  have second := run_follows_protocol service c [.describe false]
  rw [arrived] at second
  obtain ⟨⟨-, -, once, -⟩, describes, -⟩ := second
  obtain ⟨asks, -, fetches, -, kept⟩ := describes true
  rw [sent, sent, Call.sent, asked] at once
  have askedAgain : (mid.describe service true).requests = [c.descriptionRequest] :=
    asks.trans (if_pos (.inr rfl))
  have refused : ∀ r, (service mid.history r).body = .error (.status 503) := by
    rw [once]
    exact fun _ => rfl
  have still : (mid.describe service true).client.description = some d := by
    cases given : (mid.describe service true).result with
    | error fault => exact (kept fault given).trans inUse
    | ok found =>
      obtain ⟨body, root, answered, -⟩ := (fetches (.inr rfl) found).mp given
      rw [refused mid.descriptionRequest] at answered
      cases answered
  -- the searches use it
  have reached : (mid.describe service true).client = last := by
    rw [show last = run service c [.describe false, .describe true] from rfl, run,
      List.foldl_cons, List.foldl_cons, List.foldl_nil, Call.next, Call.next, hmid]
  rw [reached] at still
  obtain ⟨⟨-, -, history, -⟩, describes, searches⟩ :=
    run_follows_protocol service c [.describe false, .describe true]
  have given : (last.describe service false).result = .ok d :=
    ((describes false).2.1 d still rfl).1
  have silent : (last.describe service false).requests = [] :=
    (describes false).1.trans (if_neg (by simp [last, still]))
  have unbuilt : ((Description.ofElement 0 0 Description.nestedDocument).bind
      fun d => d.registry.build counting []).isOk = false := by
    decide +kernel
  have built : ((Description.ofElement 0 0 Description.nestedDocument).bind
      fun d => d.registry.build plain []).toOption = some "http://example.org/" := by
    decide +kernel
  rw [described, Except.bind] at unbuilt built
  refine ⟨d, described, still, ?_, ?_, ?_⟩
  · rw [history, sent, sent, sent, Call.sent, Call.sent, asked, Call.next, ← hmid,
      askedAgain]
    rfl
  · cases h : d.registry.build counting [] with
    | ok uri =>
      rw [h] at unbuilt
      cases unbuilt
    | error cause =>
      exact (((searches counting []).2.2 d given).1 cause h).2.trans silent
  · cases h : d.registry.build plain [] with
    | error cause =>
      rw [h] at built
      cases built
    | ok uri =>
      rw [h] at built
      obtain rfl := Option.some.inj built
      rw [((searches plain []).2.2 d given).2 _ h, silent]
      rfl

end Client

end GeoCatalogue
