/-
# Ways to preview a reply

A model reply is previewed at once, through a session manager, by the page service or by a tool
server. All of them extract, classify and assemble alike and under the same settings, so they show
the same document and say the same of it, whatever else the server was asked for before and in
between.

## Main definitions

* `Session.Host.launched`: the sessions of a server that was just started.

## Main results

* `load_then_preview`: a reply that is loaded and previewed in a session;
* `previews_agree`: all ways to preview a reply.
-/
import SandboxPreview.Proofs.Http.Requests
import SandboxPreview.Proofs.Http.Writing
import SandboxPreview.Proofs.Session.Loading
import SandboxPreview.Proofs.Tools.Calls

namespace SandboxPreview

open Session

variable {s : Settings} {past past' : List Event} {h h' : Host} {now later : Instant}
  {id reply : Text} {st : State}

/-! ## Sessions under settings -/

/-- The sessions of a server that was just started under the settings. -/
def Session.Host.launched (s : Settings) : Host := { manager := Launch.sessions s }

theorem fresh_launched (s : Settings) : (Host.launched s).manager.issued.Fresh := fresh_hexadecimal

/-- Runs keep to the settings. -/
theorem rest_launched (reached : (Host.launched s).Reaches past h) :
    h.manager.timeToLive = s.sessionTtlSeconds ∧ h.manager.pipeline = s.pipeline ∧
      h.manager.issued.Fresh := by
  obtain ⟨timeToLive, pipeline, later⟩ := reached.rest
  exact ⟨timeToLive, pipeline, later.fresh (fresh_launched s)⟩

/-- No session has the empty id. -/
theorem used?_nil (reached : (Host.launched s).Reaches past h) : h.manager.used? now [] = none := by
  have absent : h.manager.sessions.get? [] = none := by
    rw [Keyed.get?_eq_none_iff]
    intro member
    have client : [] ∈ clientIds h.manager.sessions := mem_clientIds_iff.mpr ⟨member, by decide⟩
    obtain ⟨number, -, same⟩ := gaveSession_of_mem_createdIds reached []
      ((clientIds_sublist_createdIds reached rfl).subset client)
    obtain ⟨-, -, issued⟩ := reached.rest
    -- Every session id has 32 digits at least.
    have long := Text.le_length_padded 16 32 number
    have written : Text.padded 16 32 number = [] := (congrFun issued.sessionId number).symm.trans same
    rw [written] at long
    exact absurd long (by decide)
  rw [Manager.used?, absent]
  exact if_neg (by decide)

/-- A reply that is loaded into a session that can be used is reported as its preview says. The
session has the new project until its deadline at least; and the project is previewed as the reply
itself is, after any run. -/
theorem load_then_preview (reached : (Host.launched s).Reaches past h)
    (found : h.manager.used? now id = some st) (reply : Text) :
    ∃ l, (h.manager.onStore now id (.loadReply reply)).2 = .ok (.loaded l) ∧
      s.pipeline.Reports reply l ∧
      (∀ later, id = defaultId ∨ later < now + s.sessionTtlSeconds →
        (h.step now (.call id (.loadReply reply))).1.manager.Offers later id l.projectId) ∧
      ∀ past' h', (h.step now (.call id (.loadReply reply))).1.Reaches past' h' → ∀ later id?,
        h'.manager.Offers later (Manager.previewId id?) l.projectId →
          ∃ preview kept, (h'.manager.preview later l.projectId id?).2 = .ok (preview, kept) ∧
            s.pipeline.Agrees reply preview := by
  obtain ⟨timeToLive, pipeline, fresh⟩ := rest_launched reached
  have nodup := reached.nodup rfl
  have loaded := loaded_call (reached.coherent rfl (fresh_launched s)) nodup fresh found reply
  have next := reached.step now (.call id (.loadReply reply))
  obtain ⟨l, answered, projectId, reports⟩ := onStore_loadReply found reply
  refine ⟨l, answered, pipeline ▸ reports, fun later live => ?_,
    fun past' h' run later id? offers => ?_⟩
  · rw [projectId]
    exact offers_of_load reached rfl (fresh_launched s) found reply (timeToLive ▸ live)
  · obtain ⟨-, -, fresh'⟩ := rest_launched next
    obtain ⟨-, pipeline', -⟩ := rest_launched (next.trans run)
    rw [projectId] at offers ⊢
    obtain ⟨preview, kept, shown, agrees⟩ := exists_preview_of_loaded
      ((next.trans run).coherent rfl (fresh_launched s))
      (loaded.of_reaches (next.nodup rfl) fresh' run) offers
    exact ⟨preview, kept, shown, pipeline' ▸ agrees⟩

/-! ## The ways to preview a reply -/

/-- A reply that is loaded into any session that can be used, after any run, is reported as its
preview says; the session has the project until its deadline at least, and after any further run its
preview there agrees with that of the reply. -/
def SessionsAgree (s : Settings) (reply : Text) : Prop :=
  ∀ past h, (Host.launched s).Reaches past h → ∀ now id session,
    (h.manager.use now id).2 = .ok session →
      ∃ l, (h.step now (.call id (.loadReply reply))).2 = .answered (.ok (.loaded l)) ∧
        s.pipeline.Reports reply l ∧
        (∀ later, id = defaultId ∨ later < now + s.sessionTtlSeconds →
          (h.step now (.call id (.loadReply reply))).1.manager.Offers later id l.projectId) ∧
        ∀ past' h', (h.step now (.call id (.loadReply reply))).1.Reaches past' h' → ∀ later id?,
          h'.manager.Offers later (Manager.previewId id?) l.projectId →
            ∃ preview kept,
              (h'.step later (.preview l.projectId id?)).2 = .shown (.ok (preview, kept)) ∧
                s.pipeline.Agrees reply preview

/-- The page service previews a reply by itself, and one that it loaded into a session, at any time
while the session has its project. -/
def ServiceAgrees (s : Settings) (reply : Text) : Prop :=
  ∀ service, (Http.Service.ofSettings s).Reaches service → ∀ now r value,
    (service.Asks r .assemble value → Http.sourceBody value = .ok (.reply reply) →
      service.handle now r =
        (service, .ok (.ok (Http.previewJson (s.pipeline.run reply))))) ∧
    ∀ id session, service.Asks r (.loadProject id) value → Http.replyBody value = .ok reply →
      (service.sessions.use now id).2 = .ok session →
        ∃ l, (service.handle now r).2 = .ok (.created (Http.loadedJson l)) ∧
          s.pipeline.Reports reply l ∧
          (∀ later, id = defaultId ∨ later < now + s.sessionTtlSeconds →
            (service.handle now r).1.sessions.Offers later id l.projectId) ∧
          ∀ service', (service.handle now r).1.Reaches service' → ∀ later r',
            service'.Asks r' (.preview id l.projectId) none →
              service'.sessions.Offers later id l.projectId →
                (service'.handle later r').2 =
                  .ok ⟨200, .html (s.pipeline.run reply).document, none, none⟩

/-- The tool server previews a reply by itself, and one that it loaded into a session, at any time
while the session has its project. -/
def ToolsAgree (s : Settings) (reply : Text) : Prop :=
  ∀ server, (Tools.Server.ofManager (Launch.sessions s)).Reaches server → ∀ now,
    (server.call now (.assemblePreview reply)).2 = .ok (s.pipeline.run reply).document ∧
    ∃ m, server.sessions? = some m ∧ ∀ sessionId? session,
      (m.use now (sessionId?.getD defaultId)).2 = .ok session →
        ∃ l, (server.call now (.loadProject reply sessionId?)).2 =
            .ok (Tools.Server.loadReport (.loaded l)) ∧
          s.pipeline.Reports reply l ∧
          (∃ m', (server.call now (.loadProject reply sessionId?)).1.sessions? = some m' ∧
            ∀ later, sessionId?.getD defaultId = defaultId ∨ later < now + s.sessionTtlSeconds →
              m'.Offers later (sessionId?.getD defaultId) l.projectId) ∧
          ∀ server' m', (server.call now (.loadProject reply sessionId?)).1.Reaches server' →
            server'.sessions? = some m' → ∀ later,
              m'.Offers later (sessionId?.getD defaultId) l.projectId →
                (server'.call later (.getPreview l.projectId sessionId?)).2 =
                  .ok (s.pipeline.run reply).document

theorem sessionsAgree (s : Settings) (reply : Text) : SessionsAgree s reply := by
  intro past h reached now id session used
  obtain ⟨l, answered, reports, offers, previews⟩ :=
    load_then_preview reached (use_eq_ok_iff.mp used) reply
  refine ⟨l, congrArg Outcome.answered answered, reports, offers, ?_⟩
  intro past' h' run later id? offers'
  obtain ⟨preview, kept, shown, agrees⟩ := previews past' h' run later id? offers'
  exact ⟨preview, kept, congrArg Outcome.shown shown, agrees⟩

/-! ### The page service -/

theorem handle_assemble {service : Http.Service} {r : Http.Request} {value : Option Json}
    (asks : service.Asks r .assemble value) (body : Http.sourceBody value = .ok (.reply reply))
    (now : Instant) :
    service.handle now r =
      (service, .ok (.ok (Http.previewJson (service.sessions.pipeline.run reply)))) := by
  have handled : service.handleEndpoint now value .assemble =
      (service, .ok (Http.previewJson (service.sessions.pipeline.run reply))) := by
    rw [Http.Service.handleEndpoint, body]
    rfl
  rw [Http.handle_of_asks asks, handled, if_pos (by simp)]

theorem handle_loadProject {service : Http.Service} {r : Http.Request} {value : Option Json}
    {l : Loaded} (asks : service.Asks r (.loadProject id) value)
    (body : Http.replyBody value = .ok reply)
    (answered : (service.sessions.onStore now id (.loadReply reply)).2 = .ok (.loaded l)) :
    service.handle now r =
      (service.withSessions (service.sessions.onStore now id (.loadReply reply)).1,
        .ok (.created (Http.loadedJson l))) := by
  have handled : service.handleEndpoint now value (.loadProject id) =
      (service.withSessions (service.sessions.onStore now id (.loadReply reply)).1,
        .created (Http.loadedJson l)) := by
    rw [Http.Service.handleEndpoint, body]
    simp only [Http.Service.checked, Http.Service.onStore]
    split
    case h_1 m answer stored =>
      rw [stored] at answered ⊢
      rw [Except.ok.inj answered]
      rfl
    case h_2 m fault stored =>
      rw [stored] at answered
      cases answered
  rw [Http.handle_of_asks asks, handled, if_pos (by simp)]

theorem handle_preview {service : Http.Service} {r : Http.Request} {projectId : Text}
    {preview : Preview} {kept : Bool} (asks : service.Asks r (.preview id projectId) none)
    (shown : (service.sessions.preview now projectId (some id)).2 = .ok (preview, kept)) :
    (service.handle now r).2 = .ok ⟨200, .html preview.document, none, none⟩ := by
  have handled : (service.handleEndpoint now none (.preview id projectId)).2 =
      ⟨200, .html preview.document, none, none⟩ := by
    rw [Http.Service.handleEndpoint, Http.Service.showPreview]
    split
    case h_1 m preview' kept' found =>
      rw [found] at shown
      obtain ⟨rfl, rfl⟩ := Prod.mk.inj (Except.ok.inj shown)
      rfl
    case h_2 m fault found =>
      rw [found] at shown
      cases shown
  rw [Http.handle_of_asks asks, handled]
  rfl

theorem serviceAgrees (s : Settings) (reply : Text) : ServiceAgrees s reply := by
  intro service reached now r value
  obtain ⟨past, h, run, rfl⟩ := reached.exists_run (h := Host.launched s) rfl
  obtain ⟨-, pipeline, -⟩ := rest_launched run
  refine ⟨fun asks body => ?_, fun id session asks body used => ?_⟩
  · rw [handle_assemble asks body, ← pipeline]
    rfl
  · have found := use_eq_ok_iff.mp used
    have named : id ≠ [] := by
      rintro rfl
      exact absurd ((used?_nil run).symm.trans found) nofun
    obtain ⟨l, answered, reports, offers, previews⟩ := load_then_preview run found reply
    have handled := handle_loadProject asks body answered
    refine ⟨l, congrArg Prod.snd handled, reports, fun later live => ?_, ?_⟩
    · rw [handled]
      exact offers later live
    · intro service' reached' later r' asks' offers'
      rw [handled] at reached'
      -- The service goes on from the sessions after the call.
      obtain ⟨past', h', run', rfl⟩ :=
        reached'.exists_run (h := (h.step now (.call id (.loadReply reply))).1) rfl
      obtain ⟨preview, kept, shown, agrees⟩ :=
        previews past' h' run' later (some id) ((previewId_some named).symm ▸ offers')
      rw [handle_preview asks' shown, agrees.document]

/-! ### The tool server -/

/-- The empty id, which no session has, is the only one that previews take for another. -/
theorem previewId_eq_getD {sessionId? : Option Text} (named : sessionId? ≠ some []) :
    Manager.previewId sessionId? = sessionId?.getD defaultId := by
  cases sessionId? with
  | none => rfl
  | some id => exact previewId_some fun empty => named (congrArg some empty)

theorem call_loadProject {server : Tools.Server} {m : Manager} {sessionId? : Option Text}
    {l : Loaded} (there : server.sessions? = some m)
    (answered : (m.onStore now (sessionId?.getD defaultId) (.loadReply reply)).2 =
      .ok (.loaded l)) :
    server.call now (.loadProject reply sessionId?) =
      ({ server with
          sessions? := some (m.onStore now (sessionId?.getD defaultId) (.loadReply reply)).1 },
        .ok (Tools.Server.loadReport (.loaded l))) := by
  rw [Tools.Server.call, Tools.Server.onStore, Tools.withSessions_of_some there]
  simp only [answered]
  rfl

theorem call_getPreview {server : Tools.Server} {m : Manager} {projectId : Text}
    {sessionId? : Option Text} {preview : Preview} {kept : Bool} (there : server.sessions? = some m)
    (shown : (m.preview now projectId sessionId?).2 = .ok (preview, kept)) :
    (server.call now (.getPreview projectId sessionId?)).2 = .ok preview.document := by
  rw [Tools.Server.call, Tools.withSessions_of_some there, Tools.Server.getPreview]
  simp only [shown]
  rfl

theorem toolsAgree (s : Settings) (reply : Text) : ToolsAgree s reply := by
  intro server reached now
  have new {past : List Event} {h : Host} (run : (Host.launched s).Reaches past h) :
      ∀ past' h', h.Reaches past' h' → h'.manager.takeId.1 ∉ h'.manager.sessions.keys :=
    fun past' h' run' => (run.trans run').new rfl (fresh_launched s)
  obtain ⟨past, h, run, rfl⟩ := reached.exists_run (h := Host.launched s) rfl (new .start)
  refine ⟨rfl, h.manager, rfl, fun sessionId? session used => ?_⟩
  have found := use_eq_ok_iff.mp used
  have named : sessionId? ≠ some [] := by
    rintro rfl
    exact absurd ((used?_nil run).symm.trans found) nofun
  obtain ⟨l, answered, reports, offers, previews⟩ := load_then_preview run found reply
  refine ⟨l, congrArg Prod.snd (call_loadProject rfl answered), reports, ⟨_, rfl, offers⟩, ?_⟩
  intro server' m' reached' there later offers'
  -- The server goes on from the sessions after the call.
  have next := run.step now (.call (sessionId?.getD defaultId) (.loadReply reply))
  obtain ⟨past', h', run', rfl⟩ := reached'.exists_run
    (h := (h.step now (.call (sessionId?.getD defaultId) (.loadReply reply))).1) rfl (new next)
  obtain rfl : h'.manager = m' := Option.some.inj there
  obtain ⟨preview, kept, shown, agrees⟩ :=
    previews past' h' run' later sessionId? ((previewId_eq_getD named).symm ▸ offers')
  rw [call_getPreview there shown, agrees.document]

/-- All ways to preview a reply under the same settings show the same and say the same of it: by
itself, and in any session that it was loaded into. -/
theorem previews_agree (s : Settings) (reply : Text) :
    SessionsAgree s reply ∧ ServiceAgrees s reply ∧ ToolsAgree s reply :=
  ⟨sessionsAgree s reply, serviceAgrees s reply, toolsAgree s reply⟩

/-- A posted reply is reported as its preview says, and the tools show it once it is loaded. -/
theorem previews_agree_posted :
    let s : Settings := {}
    let reply : Text := "***FILE_START:a.html***<p>***FILE_END***"
    let body : Text :=
      "\x7b\"text\": \"***FILE_START:a.html***<p>***FILE_END***\"\x7d"
    let bytes := (String.ofList body).toUTF8
    let post : Http.Request :=
      ⟨"POST", "/sessions/__default__/projects", [("content-type", "application/json")], [bytes]⟩
    let server := Tools.Server.ofManager (Launch.sessions s)
    (∃ l, ((Http.Service.ofSettings s).handle 0 post).2 = .ok (.created (Http.loadedJson l)) ∧
        s.pipeline.Reports reply l) ∧
      ∃ l, (server.call 0 (.loadProject reply none)).2 = .ok (Tools.Server.loadReport (.loaded l)) ∧
        ((server.call 0 (.loadProject reply none)).1.call 5 (.getPreview l.projectId none)).2 =
          .ok (s.pipeline.run reply).document := by
  intro s reply body bytes post server
  obtain ⟨-, service, tools⟩ := previews_agree s reply
  constructor
  · have text : ((Http.readBody post bytes).toOption.bind fun value =>
        (Http.replyBody value).toOption) = some reply := by decide +kernel
    cases read : Http.readBody post bytes with
    | error response => simp [read, Except.toOption] at text
    | ok value =>
      cases found : Http.replyBody value with
      | error issues => simp [read, found, Except.toOption] at text
      | ok posted =>
        obtain rfl : posted = reply := by simpa [read, found, Except.toOption] using text
        obtain ⟨l, answered, reports, -⟩ := (service _ .start 0 post value).2 defaultId _
          ⟨rfl, bytes, by decide +kernel, read, by decide +kernel⟩ found rfl
        exact ⟨l, answered, reports⟩
  · obtain ⟨-, m, there, loads⟩ := tools server .start 0
    obtain rfl := Option.some.inj there
    obtain ⟨l, answered, -, ⟨m', there', offers⟩, previews⟩ := loads none _ rfl
    exact ⟨l, answered, previews _ m' .start there' 5 (offers 5 (Or.inl rfl))⟩

end SandboxPreview
