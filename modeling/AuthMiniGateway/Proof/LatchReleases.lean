import AuthMiniGateway.ForwardExchange
import AuthMiniGateway.Proof.Teardown

namespace AuthMiniGateway

variable {W D E : Type}

/-- The calls that the first reports of the two halves lead to. -/
structure Released (resource : ExchangeResource) (requests : List Bool)
    (responses : List ResponseCompletion) (finishes : List FinishCall) : Prop where
  unfinished : requests = [] ∨ responses = [] → finishes = []
  finished : ∀ clean response, requests.getLast? = some clean → responses.getLast? = some response →
    ∃ sender, finishes =
      [⟨resource.withSender sender, clean && response.reusable, response.reason⟩]

theorem finishExchangeResource_parks_iff (resource : ExchangeResource) (sender reusable : Bool)
    (reason : RetirementReason) :
    finishExchangeResource ⟨resource.withSender sender, reusable, reason⟩ = .parkOrRetire ↔
      resource.protocol = .http1 ∧ reusable = true := by
  cases resource with
  | h1 => cases reusable <;> simp [finishExchangeResource, ExchangeResource.withSender,
      ExchangeResource.protocol]
  | h2 _ privateGeneration => cases privateGeneration <;>
      simp [finishExchangeResource, ExchangeResource.withSender, ExchangeResource.protocol]

namespace Released

variable {resource : ExchangeResource} {requests : List Bool} {responses : List ResponseCompletion}
  {finishes : List FinishCall}

theorem finished_once (h : Released resource requests responses finishes) (hreq : requests ≠ [])
    (hres : responses ≠ []) : finishes.length = 1 := by
  obtain ⟨sender, hfinishes⟩ := h.finished _ _ (List.getLast?_eq_some_getLast hreq)
    (List.getLast?_eq_some_getLast hres)
  rw [hfinishes, List.length_singleton]

theorem parks_iff (h : Released resource requests responses finishes) :
    .parkOrRetire ∈ finishes.map finishExchangeResource ↔
      resource.protocol = .http1 ∧ requests.getLast? = some true ∧
        ∃ reason, responses.getLast? = some ⟨true, reason⟩ := by
  cases hreq : requests.getLast? with
  | none =>
    rw [h.unfinished (.inl (List.getLast?_eq_none_iff.mp hreq))]
    simp
  | some clean =>
    cases hres : responses.getLast? with
    | none =>
      rw [h.unfinished (.inr (List.getLast?_eq_none_iff.mp hres))]
      simp
    | some response =>
      obtain ⟨sender, hfinishes⟩ := h.finished clean response hreq hres
      obtain ⟨reusable, reason⟩ := response
      rw [hfinishes, List.map_singleton, List.mem_singleton, eq_comm,
        finishExchangeResource_parks_iff, Bool.and_eq_true]
      simp

end Released

/-! ### The latch -/

@[simp]
theorem ExchangeResource.withSender_withSender (resource : ExchangeResource) (a b : Bool) :
    (resource.withSender a).withSender b = resource.withSender b := by
  cases resource <;> rfl

theorem ExchangeResource.withSender_sender (resource : ExchangeResource) :
    resource.withSender resource.sender = resource := by
  cases resource <;> rfl

structure ExchangeLatch.Follows (latch : ExchangeLatch) (resource : ExchangeResource)
    (requests : List Bool) (responses : List ResponseCompletion) (finishes : List FinishCall) :
    Prop where
  request : latch.request = requests.getLast?
  response : latch.response = responses.getLast?
  released : Released resource requests responses finishes
  kept : requests = [] ∨ responses = [] → ∃ sender, latch.resource = some (resource.withSender sender)
  taken : requests ≠ [] → responses ≠ [] → latch.resource = none

namespace ExchangeLatch

variable {latch : ExchangeLatch} {resource : ExchangeResource} {requests : List Bool}
  {responses : List ResponseCompletion} {finishes : List FinishCall}

theorem follows_new (resource : ExchangeResource) : (new resource).Follows resource [] [] [] :=
  { request := rfl
    response := rfl
    released := ⟨fun _ => rfl, fun _ _ h => by cases h⟩
    kept := fun _ => ⟨resource.sender, by rw [resource.withSender_sender]; rfl⟩
    taken := fun h => absurd rfl h }

theorem Follows.sender {next : ExchangeLatch}
    (h : latch.Follows resource requests responses finishes)
    (hrequest : next.request = latch.request) (hresponse : next.response = latch.response)
    (hresource : (∃ sender, next.resource = latch.resource.map (·.withSender sender)) ∨
      next.resource = latch.resource) :
    next.Follows resource requests responses finishes := by
  refine ⟨hrequest.trans h.request, hresponse.trans h.response, h.released, fun hopen => ?_,
    fun hreq hres => ?_⟩
  · obtain ⟨before, hbefore⟩ := h.kept hopen
    rcases hresource with ⟨sender, hmap⟩ | hsame
    · exact ⟨sender, by rw [hmap, hbefore, Option.map_some, ExchangeResource.withSender_withSender]⟩
    · exact ⟨before, hsame.trans hbefore⟩
  · have hgone := h.taken hreq hres
    rcases hresource with ⟨sender, hmap⟩ | hsame
    · rw [hmap, hgone, Option.map_none]
    · exact hsame.trans hgone

theorem Follows.putSender (h : latch.Follows resource requests responses finishes) :
    latch.putSender.Follows resource requests responses finishes :=
  h.sender rfl rfl (.inl ⟨true, rfl⟩)

theorem Follows.takeDispatchSender {next : ExchangeLatch}
    (h : latch.Follows resource requests responses finishes)
    (htake : latch.takeDispatchSender = some next) :
    next.Follows resource requests responses finishes := by
  unfold ExchangeLatch.takeDispatchSender at htake
  split at htake
  · next held hheld =>
    split at htake
    · cases htake
      exact h.sender rfl rfl (.inl ⟨false, by rw [hheld, Option.map_some]⟩)
    · cases htake
  · cases htake

theorem Follows.dropH1Sender (h : latch.Follows resource requests responses finishes) :
    latch.dropH1Sender.Follows resource requests responses finishes := by
  unfold ExchangeLatch.dropH1Sender
  split
  · next before hheld => exact h.sender rfl rfl (.inl ⟨false, by rw [hheld]; rfl⟩)
  · exact h

theorem follows_complete {update : ExchangeLatch → ExchangeLatch}
    (hrequest : (update latch).request = requests.getLast?)
    (hresponse : (update latch).response = responses.getLast?)
    (hresource : (∃ sender, (update latch).resource = some (resource.withSender sender)) ∧
        finishes = [] ∨
      (update latch).resource = none ∧ requests ≠ [] ∧ responses ≠ [] ∧
        Released resource requests responses finishes) :
    (latch.complete update).1.Follows resource requests responses
      ((latch.complete update).2.toList ++ finishes) := by
  generalize hresult : latch.complete update = result
  simp only [complete] at hresult
  split at hresult <;> subst hresult
  · next clean response held hclean hcompleted hheld =>
    have hreq : requests.getLast? = some clean := hrequest.symm.trans hclean
    have hres : responses.getLast? = some response := hresponse.symm.trans hcompleted
    rcases hresource with ⟨⟨sender, hsender⟩, rfl⟩ | ⟨hgone, _⟩
    · have hheld' : held = resource.withSender sender := Option.some.inj (hheld.symm.trans hsender)
      have hopen : ¬ (requests = [] ∨ responses = []) := by
        rintro (rfl | rfl)
        · cases hreq
        · cases hres
      refine ⟨hrequest, hresponse, ⟨fun h => absurd h hopen, fun clean' response' h h' => ?_⟩,
        fun h => absurd h hopen, fun _ _ => rfl⟩
      obtain rfl : clean = clean' := Option.some.inj (hreq.symm.trans h)
      obtain rfl : response = response' := Option.some.inj (hres.symm.trans h')
      exact ⟨sender, by rw [hheld']; rfl⟩
    · cases hgone.symm.trans hheld
  · next hnot =>
    rcases hresource with ⟨⟨sender, hsender⟩, rfl⟩ | ⟨hgone, hreq, hres, hreleased⟩
    · have hopen : requests = [] ∨ responses = [] := by
        by_contra hboth
        push Not at hboth
        exact hnot _ _ _ (hrequest.trans (List.getLast?_eq_some_getLast hboth.1))
          (hresponse.trans (List.getLast?_eq_some_getLast hboth.2)) hsender
      refine ⟨hrequest, hresponse, ⟨fun _ => rfl, fun clean response h h' => ?_⟩,
        fun _ => ⟨sender, hsender⟩, fun hreq hres => absurd hopen (not_or.mpr ⟨hreq, hres⟩)⟩
      rcases hopen with rfl | rfl
      · cases h
      · cases h'
    · exact ⟨hrequest, hresponse, hreleased,
        fun hopen => absurd hopen (not_or.mpr ⟨hreq, hres⟩), fun _ _ => hgone⟩

theorem getLast?_cons_first {α : Type} (latest : α) (earlier : List α) :
    (latest :: earlier).getLast? = (earlier.getLast? <|> some latest) := by
  rw [List.getLast?_cons]
  cases earlier.getLast? with
  | none | some first => rfl

theorem getLast?_cons_of_ne_nil {α : Type} (latest : α) {earlier : List α} (h : earlier ≠ []) :
    (latest :: earlier).getLast? = earlier.getLast? := by
  rw [getLast?_cons_first, List.getLast?_eq_some_getLast h]
  rfl

theorem Follows.requestDone (h : latch.Follows resource requests responses finishes) (clean : Bool) :
    (latch.requestDone clean).1.Follows resource (clean :: requests) responses
      ((latch.requestDone clean).2.toList ++ finishes) := by
  apply follows_complete
  · rw [getLast?_cons_first, ← h.request]
  · exact h.response
  · by_cases hopen : requests = [] ∨ responses = []
    · exact .inl ⟨h.kept hopen, h.released.unfinished hopen⟩
    · obtain ⟨hreq, hres⟩ := not_or.mp hopen
      refine .inr ⟨h.taken hreq hres, List.cons_ne_nil _ _, hres,
        fun hnil => absurd hnil (not_or.mpr ⟨List.cons_ne_nil _ _, hres⟩), ?_⟩
      rw [getLast?_cons_of_ne_nil clean hreq]
      exact h.released.finished

theorem Follows.responseDone (h : latch.Follows resource requests responses finishes)
    (completion : ResponseCompletion) :
    (latch.responseDone completion).1.Follows resource requests (completion :: responses)
      ((latch.responseDone completion).2.toList ++ finishes) := by
  apply follows_complete
  · exact h.request
  · rw [getLast?_cons_first, ← h.response]
  · by_cases hopen : requests = [] ∨ responses = []
    · exact .inl ⟨h.kept hopen, h.released.unfinished hopen⟩
    · obtain ⟨hreq, hres⟩ := not_or.mp hopen
      refine .inr ⟨h.taken hreq hres, hreq, List.cons_ne_nil _ _,
        fun hnil => absurd hnil (not_or.mpr ⟨hreq, List.cons_ne_nil _ _⟩), ?_⟩
      rw [getLast?_cons_of_ne_nil completion hres]
      exact h.released.finished

end ExchangeLatch

/-! ### Tunnels -/

namespace Tunnel

variable {t : Tunnel} {event : TunnelEvent}

/-- A tunnel that is being taken down still has its report to make, if it has not made it. -/
def Owes (t : Tunnel) : Prop :=
  ∀ actions, t.stage = .ending actions → t.exchange = true →
    ∃ reason, TeardownAction.responseDone reason ∈ actions

theorem owes_of_rest (h : ∀ actions, t.stage ≠ .ending actions) : t.Owes :=
  fun actions hstage => absurd hstage (h actions)

theorem owes_new (bridge : WebSocketBridge) : (new bridge).Owes := by
  apply owes_of_rest
  intro actions hstage
  cases bridge <;> cases hstage

theorem owes_ending {actions : List TeardownAction} (reason : RetirementReason)
    (h : TeardownAction.responseDone reason ∈ actions) (hstage : t.stage = .ending actions) :
    t.Owes := by
  intro later hlater _
  cases hstage.symm.trans hlater
  exact ⟨reason, h⟩

theorem exchange_act (action : TeardownAction) (hgone : (t.act action).exchange = true) :
    t.exchange = true ∧ ∀ reason, action ≠ .responseDone reason := by
  cases action with
  | responseDone =>
    by_cases hexchange : t.exchange = true
    · rw [Tunnel.act, if_pos hexchange] at hgone
      cases hgone
    · rw [Tunnel.act, if_neg hexchange] at hgone
      exact absurd hgone hexchange
  | dropDownstreamHandle | dropUpstreamHandle | dropDownstreamStream | dropUpstreamStream
  | releaseStreamLease | releaseLease => exact ⟨hgone, nofun⟩

theorem Owes.act {action : TeardownAction} {actions : List TeardownAction} (h : t.Owes)
    (hstage : t.stage = .ending (action :: actions)) :
    ({ t.act action with stage := .ending actions } : Tunnel).Owes := by
  intro later hlater hexchange
  cases hlater
  obtain ⟨hheld, hother⟩ := exchange_act action hexchange
  obtain ⟨reason, hmem⟩ := h _ hstage hheld
  rcases List.mem_cons.mp hmem with heq | hrest
  · exact absurd heq.symm (hother reason)
  · exact ⟨reason, hrest⟩

theorem ending_of_enabled_act (h : t.enabled .act = true) :
    ∃ action actions, t.stage = .ending (action :: actions) := by
  simp only [enabled] at h
  split at h
  · next action actions hstage => exact ⟨action, actions, hstage⟩
  · cases h

theorem Owes.apply (h : t.Owes) (henabled : t.enabled event = true) : (t.apply event).Owes := by
  cases event with
  | accept | reject => exact owes_of_rest nofun
  | forwardReturn | downstreamUpgraded | upstreamUpgraded => exact h
  | upgradeFailed => exact owes_ending .upgradeFailure (by decide) rfl
  | bothUpgraded => exact owes_of_rest nofun
  | copyEnded ok => exact owes_ending .webSocketCancellation (by cases ok <;> decide) rfl
  | rejectedUpgrade => exact owes_ending .invalidUpgrade (by decide) rfl
  | cancel =>
    rcases of_decide_eq_true henabled with hstage | hstage | hstage
    all_goals simp only [Tunnel.apply, hstage]
    · exact owes_ending .webSocketCancellation (by decide) rfl
    · exact owes_ending .webSocketCancellation (by decide) rfl
    · exact owes_ending .invalidUpgrade (by decide) rfl
  | act =>
    obtain ⟨action, actions, hstage⟩ := ending_of_enabled_act henabled
    simp only [Tunnel.apply, hstage]
    exact h.act hstage

theorem reports_of_exchange_gone (henabled : t.enabled event = true) (hheld : t.exchange = true)
    (hgone : (t.apply event).exchange = false) : (t.reports event).isSome = true := by
  cases event with
  | act =>
    obtain ⟨action, actions, hstage⟩ := ending_of_enabled_act henabled
    simp only [Tunnel.apply, hstage] at hgone
    cases action with
    | responseDone => simp only [reports, hstage, hheld, if_true, Option.isSome_some]
    | dropDownstreamHandle | dropUpstreamHandle | dropDownstreamStream | dropUpstreamStream
    | releaseStreamLease | releaseLease => cases hheld.symm.trans hgone
  | cancel =>
    rcases of_decide_eq_true henabled with hstage | hstage | hstage
    all_goals
      simp only [Tunnel.apply, hstage] at hgone
      cases hheld.symm.trans hgone
  | accept | reject | forwardReturn | downstreamUpgraded | upstreamUpgraded | upgradeFailed
  | bothUpgraded | copyEnded | rejectedUpgrade => cases hheld.symm.trans hgone

end Tunnel

/-! ### Forwarded exchanges -/

namespace ForwardExchange

variable {x next : ForwardExchange W D E} {resource : ExchangeResource}

abbrev Follows (x : ForwardExchange W D E) (resource : ExchangeResource) : Prop :=
  x.latch.Follows resource x.requests x.responses x.finishes

def ResponseHalf.Owed (responses : List ResponseCompletion) : ResponseHalf D E → Prop
  | .guard => True
  | .body body => body.exchange = false → responses ≠ []
  | .tunnel t => t.Owes ∧ (t.exchange = false → responses ≠ [])
  | .gone => responses ≠ []

structure Owed (x : ForwardExchange W D E) : Prop where
  request : x.wrapper = false → x.requests ≠ []
  response : ResponseHalf.Owed x.responses x.response

variable {responses : List ResponseCompletion}

theorem ResponseHalf.Owed.cons {half : ResponseHalf D E} (h : Owed responses half)
    (completion : ResponseCompletion) : Owed (completion :: responses) half := by
  cases half with
  | guard => trivial
  | body => exact fun _ => List.cons_ne_nil _ _
  | tunnel => exact ⟨h.1, fun _ => List.cons_ne_nil _ _⟩
  | gone => exact List.cons_ne_nil _ _

theorem Follows.handOver (h : x.Follows resource) (half : ResponseHalf D E)
    (report : Option ResponseCompletion) : (x.handOver half report).Follows resource := by
  cases report with
  | none => exact h
  | some completion => exact h.responseDone completion

theorem responses_handOver (half : ResponseHalf D E) (report : Option ResponseCompletion) :
    (x.handOver half report).responses = report.toList ++ x.responses := by
  cases report <;> rfl

theorem response_handOver (half : ResponseHalf D E) (report : Option ResponseCompletion) :
    (x.handOver half report).response = half := by
  cases report <;> rfl

theorem Owed.handOver (h : x.Owed) {half : ResponseHalf D E} {report : Option ResponseCompletion}
    (hhalf : ResponseHalf.Owed (report.toList ++ x.responses) half) :
    (x.handOver half report).Owed := by
  refine ⟨?_, ?_⟩
  · cases report with
    | none | some => exact h.request
  · rw [responses_handOver, response_handOver]
    exact hhalf

theorem report_owed (body : ExchangeResponseBody D E) (h : body.exchange = false → responses ≠ [])
    (completion : ResponseCompletion) : (body.report completion).2.toList ++ responses ≠ [] := by
  unfold ExchangeResponseBody.report
  split
  · exact List.cons_ne_nil _ _
  · next hgone => exact h (Bool.eq_false_iff.mpr hgone)

theorem pollFrame_owed {body : ExchangeResponseBody D E}
    (h : body.exchange = false → responses ≠ []) (ended : Bool) :
    (body.pollFrame ended).1.1.exchange = false →
      (body.pollFrame ended).1.2.toList ++ responses ≠ [] := by
  unfold ExchangeResponseBody.pollFrame
  split
  · exact h
  · exact h
  · next answer rest hinner =>
    have hrest (completion : ResponseCompletion) :=
      report_owed { body with inner := some rest } h completion
    split
    · exact fun _ => hrest _
    · split
      · exact fun _ => hrest _
      · exact h
    · exact fun _ => hrest _
    · exact fun _ => hrest _
    · exact h

theorem tunnel_owed {t : Tunnel} {event : TunnelEvent}
    (h : ResponseHalf.Owed (D := D) (E := E) responses (.tunnel t))
    (henabled : t.enabled event = true) : ResponseHalf.Owed (D := D) (E := E)
      (((t.reports event).map fun reason => ResponseCompletion.mk false reason).toList ++ responses)
      (.tunnel (t.apply event)) := by
  refine ⟨h.1.apply henabled, fun hgone => ?_⟩
  cases hheld : t.exchange with
  | false => exact List.append_ne_nil_of_right_ne_nil _ (h.2 hheld)
  | true =>
    obtain ⟨reason, hreason⟩ :=
      Option.isSome_iff_exists.mp (Tunnel.reports_of_exchange_gone henabled hheld hgone)
    rw [hreason]
    exact List.cons_ne_nil _ _

theorem Follows.delivered (h : x.Follows resource) (inner : List (PolledFrame D E)) (complete : Bool)
    (delivery : Delivery) : (x.delivered inner complete delivery).Follows resource := by
  cases delivery with
  | report => exact Follows.handOver (x := x.returning) h .gone _
  | body => exact Follows.handOver (x := x.returning) h _ _
  | bridge bridge =>
    have hlatch : (if bridge.upstream = .http1 then x.latch.dropH1Sender else x.latch).Follows
        resource x.requests x.responses x.finishes := by
      split
      · exact ExchangeLatch.Follows.dropH1Sender h
      · exact h
    exact hlatch

theorem Owed.returning (h : x.Owed) : x.returning.Owed := ⟨h.request, h.response⟩

theorem Owed.reportGone (h : x.Owed) (completion : ResponseCompletion) :
    (x.returning.handOver .gone (some completion)).Owed :=
  h.returning.handOver (List.cons_ne_nil _ _)

theorem new_owed (responses : List ResponseCompletion) (inner : List (PolledFrame D E))
    (reusable complete : Bool) :
    ResponseHalf.Owed ((ExchangeResponseBody.new inner reusable complete).2.toList ++ responses)
      (.body (ExchangeResponseBody.new inner reusable complete).1) := by
  cases complete with
  | true => exact fun _ => List.cons_ne_nil _ _
  | false => exact fun hgone => by cases hgone

theorem Owed.delivered (h : x.Owed) (inner : List (PolledFrame D E)) (complete : Bool)
    (delivery : Delivery) : (x.delivered inner complete delivery).Owed := by
  cases delivery with
  | report => exact h.reportGone _
  | body reusable => exact h.returning.handOver (new_owed _ inner reusable complete)
  | bridge bridge =>
    refine ⟨h.request, Tunnel.owes_new bridge, fun hgone => ?_⟩
    cases hgone

/-! ### Steps and runs -/

theorem Step.follows {event : ForwardEvent W D E} (hstep : Step x event next)
    (h : x.Follows resource) : next.Follows resource := by
  cases hstep with
  | upload => exact h
  | wrapperDrop => exact ExchangeLatch.Follows.requestDone h _
  | takeSender _ htake => exact ExchangeLatch.Follows.takeDispatchSender h htake
  | noSender => exact h
  | dispatched => exact ExchangeLatch.Follows.putSender h
  | sendFailure => exact Follows.handOver (x := x.returning) h _ _
  | cancel => exact ExchangeLatch.Follows.putSender h
  | guardDrop => exact Follows.handOver (x := x.returning) h _ _
  | deliver => exact Follows.delivered h _ _ _
  | bodyPoll | bodyDrop | tunnel => exact Follows.handOver h _ _
  | requestDone clean => exact ExchangeLatch.Follows.requestDone h clean
  | responseDone completion => exact ExchangeLatch.Follows.responseDone h completion

theorem Step.owed {event : ForwardEvent W D E} (hstep : Step x event next) (h : x.Owed) :
    next.Owed := by
  have hresponse := h.response
  cases hstep with
  | upload => exact ⟨h.request, hresponse⟩
  | wrapperDrop => exact ⟨fun _ => List.cons_ne_nil _ _, hresponse⟩
  | takeSender | noSender | dispatched => exact ⟨h.request, hresponse⟩
  | sendFailure => exact h.reportGone _
  | cancel => exact ⟨h.request, hresponse⟩
  | guardDrop => exact h.reportGone _
  | deliver => exact h.delivered _ _ _
  | bodyPoll ended hbody =>
    rw [hbody] at hresponse
    exact h.handOver (pollFrame_owed hresponse ended)
  | bodyDrop hbody =>
    rw [hbody] at hresponse
    exact h.handOver (report_owed _ hresponse _)
  | tunnel _ htunnel henabled =>
    rw [htunnel] at hresponse
    exact h.handOver (tunnel_owed hresponse henabled)
  | requestDone => exact ⟨fun _ => List.cons_ne_nil _ _, hresponse⟩
  | responseDone completion => exact ⟨h.request, hresponse.cons completion⟩

theorem Owed.reported_of_dropped (h : x.Owed) (hdropped : x.Dropped) :
    x.requests ≠ [] ∧ x.responses ≠ [] := by
  obtain ⟨_, hwrapper, hresponse⟩ := hdropped
  have howed := h.response
  refine ⟨h.request hwrapper, ?_⟩
  rcases hresponse with hgone | ⟨t, htunnel, hended⟩
  · rw [hgone] at howed
    exact howed
  · rw [htunnel] at howed
    apply howed.2
    -- an ended tunnel has no action left to report with
    by_contra hheld
    obtain ⟨reason, hmem⟩ := howed.1 [] hended (Bool.not_eq_false _ ▸ hheld)
    exact absurd hmem List.not_mem_nil

end ForwardExchange

/-- **Released once, after both halves.** In every run of a forwarded exchange, with reports of either
half in any order and number, the owner is finished by exactly one call once both halves have reported
and by none before; it is offered to the pool exactly when it is an HTTP/1 owner, the first report of
the request half was clean and the first report of the response half was reusable. Once the wrapper,
the guard, the body and the bridge have been dropped, it has been finished. -/
theorem exchange_released_once (resource : ExchangeResource) (websocket : Option ActualProtocol)
    (source : List (PolledFrame D E)) (complete : Bool) {events : List (ForwardEvent W D E)}
    {x : ForwardExchange W D E}
    (hrun : (forwardSystem W D E).Run (.new resource websocket source complete) events x) :
    Released resource x.requests x.responses x.finishes ∧
    (.parkOrRetire ∈ x.finishes.map finishExchangeResource ↔
      resource.protocol = .http1 ∧ x.requests.getLast? = some true ∧
        ∃ reason, x.responses.getLast? = some ⟨true, reason⟩) ∧
    (x.Dropped → x.finishes.length = 1) := by
  have hfollows : x.Follows resource :=
    hrun.invariant (·.Follows resource) (ExchangeLatch.follows_new resource)
      fun _ _ _ h hstep => hstep.follows h
  have howed : x.Owed := by
    refine hrun.invariant (·.Owed) ⟨fun hgone => ?_, trivial⟩ fun _ _ _ h hstep => hstep.owed h
    cases hgone
  refine ⟨hfollows.released, hfollows.released.parks_iff, fun hdropped => ?_⟩
  obtain ⟨hreq, hres⟩ := howed.reported_of_dropped hdropped
  exact hfollows.released.finished_once hreq hres

/-- A response that is passed on whole, over an HTTP/1 owner that goes back to the pool. -/
theorem exchange_released_once_reused :
    ∃ events x, (forwardSystem Unit Unit Unit).Run (.new (.h1 true) none [] true) events x ∧
      x.Dropped ∧ .parkOrRetire ∈ x.finishes.map finishExchangeResource ∧ x.finishes.length = 1 := by
  have hstart : (forwardSystem Unit Unit Unit).Run (.new (.h1 true) none [] true) [] _ := .start
  have htaken := hstart.step (.takeSender rfl rfl)
  have hdispatched := htaken.step (.dispatched true rfl)
  have hdelivered := hdispatched.step (.deliver ⟨.http11, 200, []⟩ true true [] true rfl)
  have hrun := (hdelivered.step (.wrapperDrop rfl)).step (.bodyDrop rfl)
  obtain ⟨_, hparks, hdropped⟩ := exchange_released_once (.h1 true) none [] true hrun
  exact ⟨_, _, hrun, ⟨rfl, rfl, .inl rfl⟩, hparks.mpr ⟨rfl, rfl, _, rfl⟩,
    hdropped ⟨rfl, rfl, .inl rfl⟩⟩

end AuthMiniGateway
