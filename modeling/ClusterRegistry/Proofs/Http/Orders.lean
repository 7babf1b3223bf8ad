import ClusterRegistry.Proofs.Credential
import ClusterRegistry.Proofs.Http.Children
import ClusterRegistry.Proofs.Text.Trimmed

/-!
# Both orders of a parent and its children

A list of children is asked for with the parent first or with the children first. Once the route is
found, nothing but the text of the parameter is left of the path, so both requests are answered
alike whatever that text is (`Service.act_congr`). The two orders differ in what is said of a
segment that is no text, where each names its own parameter, and where the segment is empty, which
leads nowhere if the children come first (`Service.orders_agree_iff`).
-/

namespace ClusterRegistry.Http

/-! ## Paths written out -/

/-- Whether a text may stand between two slashes of a path. -/
def isSegment (s : String) : Bool := s.toList.all fun c => c != '/' && !endsPath c

theorem isSegment_iff {s : String} :
    isSegment s = true ↔ ∀ c ∈ s.toList, c ≠ '/' ∧ endsPath c = false := by
  simp only [isSegment, List.all_eq_true, Bool.and_eq_true, bne_iff_ne, Bool.not_eq_true']

/-- The target that is a path of some segments. -/
def targetOf (path : List String) : String :=
  String.ofList ((path.map String.toList).flatMap ('/' :: ·))

/-- A target that is a path is all path. -/
theorem pathOf_targetOf {path : List String} (h : ∀ s ∈ path, isSegment s = true) :
    pathOf (targetOf path).toList = (path.map String.toList).flatMap ('/' :: ·) := by
  have hends : ∀ c ∈ (path.map String.toList).flatMap ('/' :: ·), (!endsPath c) = true := by
    intro c hc
    obtain ⟨part, hpart, hc⟩ := List.mem_flatMap.mp hc
    obtain ⟨s, hs, rfl⟩ := List.mem_map.mp hpart
    rcases List.mem_cons.mp hc with rfl | hc
    · rfl
    · rw [(isSegment_iff.mp (h s hs) c hc).2]
      rfl
  rw [targetOf, String.toList_ofList]
  cases path with
  | nil => rfl
  | cons s rest =>
    rw [List.map_cons, List.flatMap_cons, List.cons_append] at hends ⊢
    exact List.takeWhile_eq_self_iff.mpr hends

/-- The segments that a target is written from are read off it. -/
theorem segments_targetOf {path : List String} (h : ∀ s ∈ path, isSegment s = true) :
    segments (targetOf path) = path := by
  have hslash : ∀ part ∈ path.map String.toList, '/' ∉ part := by
    rw [List.forall_mem_map]
    exact fun s hs hmem => (isSegment_iff.mp (h s hs) '/' hmem).1 rfl
  rw [segments, pathOf_targetOf h, Text.splitAll_flatMap hslash, List.drop_one, List.tail_cons,
    List.map_map]
  exact List.map_id'' (fun s => String.ofList_toList) path

/-- The segment of a collection is one. -/
theorem isSegment_collection (k : Kind) : isSegment k.collection = true := by
  cases k <;> rfl

/-! ## What both orders are answered -/

/-- The request for the resources of a kind under a parent in which the parent comes first. -/
def parentFirst (kind parent : Kind) (t : String) (headers : List (String × String))
    (body : List UInt8) : Request :=
  ⟨"GET", targetOf [parent.collection, t, kind.collection], headers, body⟩

/-- The request for the resources of a kind under a parent in which the kind comes first. -/
def childFirst (kind parent : Kind) (t : String) (headers : List (String × String))
    (body : List UInt8) : Request :=
  ⟨"GET", targetOf [kind.collection, parent.collection, t], headers, body⟩

namespace Service

variable {kind parent : Kind} {t : String}
variable (service : Service) (headers : List (String × String)) (body : List UInt8) (s : State)

/-- Of the path an action sees the kind of the route and the argument. -/
theorem act_congr {m m' : Match} {request request' : Request} (hkind : m.route.kind = m'.route.kind)
    (harg : argument m.parameters = argument m'.parameters)
    (hheaders : request.headers = request'.headers) (hbody : request.body = request'.body)
    (action : Action) : service.act m action request s = service.act m' action request' s := by
  simp only [act, hkind, harg, hheaders, hbody]

/-- A path that leads to the list of children is answered by it. -/
theorem answer_of_listsUnder {request : Request} (hmethod : request.method = "GET") {r : Route}
    {parameters : List Parameter}
    (hfind : findRoute (segments request.target) = some ⟨r, parameters⟩)
    (hr : r.ListsUnder kind parent) :
    service.answer request s = service.act ⟨r, parameters⟩ (.listUnder parent) request s := by
  simp only [answer, hfind, hmethod, readMethod, hr.get]
  rfl

/-- A parameter that is no text is all that is answered. -/
theorem act_of_unreadable {r : Route} (hkind : r.kind = some kind) {name raw : String}
    (hraw : decodeSegment raw = none) (action : Action) (request : Request) :
    service.act ⟨r, [⟨name, raw⟩]⟩ action request s = (unreadableParameter name, s) := by
  simp only [act, hkind, argument, hraw]

/-- An empty parameter is answered by a fault in the credentials or in the id. -/
theorem act_listUnder_empty {r : Route} (hkind : r.kind = some kind) (name : String)
    (request : Request) :
    ∃ e : ApiError, service.act ⟨r, [⟨name, ""⟩]⟩ (.listUnder parent) request s = (.ofError e, s) ∧
      e.category.code ≠ 404 := by
  have hempty : decodeSegment "" = some "" := by decide +kernel
  cases hwho : authenticate service.tokens (some kind) (credentials request.headers) with
  | error e =>
    refine ⟨e, by simp only [act, hkind, argument, hempty, hwho], ?_⟩
    obtain ⟨gate, fault, rfl, -⟩ := gate_of_authenticate_eq_error hwho
    cases gate <;> exact Nat.ne_of_beq_eq_false rfl
  | ok who =>
    refine ⟨.idNotNumeric "", ?_, by decide⟩
    simp only [act, hkind, argument, hempty, hwho, Action.readsBody, Bool.false_and]
    rfl

theorem segments_parentFirst (ht : isSegment t = true) :
    segments (parentFirst kind parent t headers body).target =
      [parent.collection, t, kind.collection] :=
  segments_targetOf (by simp [ht, isSegment_collection])

theorem segments_childFirst (ht : isSegment t = true) :
    segments (childFirst kind parent t headers body).target =
      [kind.collection, parent.collection, t] :=
  segments_targetOf (by simp [ht, isSegment_collection])

/-- With the parent first, the answer is that of the list of children. -/
theorem answer_parentFirst (h : parent ∈ kind.parents) (ht : isSegment t = true)
    (hcollection : ∀ k : Kind, k.collection ≠ t) :
    ∃ r : Route, r.kind = some kind ∧
      service.answer (parentFirst kind parent t headers body) s =
        service.act ⟨r, [⟨"id", t⟩]⟩ (.listUnder parent)
          (parentFirst kind parent t headers body) s := by
  obtain ⟨r, hfind, hr⟩ := findRoute_parentFirst h hcollection
  rw [← segments_parentFirst headers body ht] at hfind
  exact ⟨r, hr.kind, service.answer_of_listsUnder s rfl hfind hr⟩

/-- With the children first, the answer is that of the list of children, too. -/
theorem answer_childFirst (h : parent ∈ kind.parents) (ht : isSegment t = true) (hne : t ≠ "") :
    ∃ r : Route, r.kind = some kind ∧
      service.answer (childFirst kind parent t headers body) s =
        service.act ⟨r, [⟨"parent_id", t⟩]⟩ (.listUnder parent)
          (childFirst kind parent t headers body) s := by
  obtain ⟨r, hfind, hr⟩ := findRoute_childFirst h hne
  rw [← segments_childFirst headers body ht] at hfind
  exact ⟨r, hr.kind, service.answer_of_listsUnder s rfl hfind hr⟩

/-- A segment that is no text is answered by the name of the parameter that it stands for. -/
theorem answers_of_unreadable (h : parent ∈ kind.parents) (ht : isSegment t = true)
    (hcollection : ∀ k : Kind, k.collection ≠ t) (hunreadable : decodeSegment t = none) :
    service.answer (parentFirst kind parent t headers body) s = (unreadableParameter "id", s) ∧
      service.answer (childFirst kind parent t headers body) s =
        (unreadableParameter "parent_id", s) := by
  have hne : t ≠ "" := by
    rintro rfl
    have hempty : (decodeSegment "").isSome = true := by decide +kernel
    rw [hunreadable] at hempty
    cases hempty
  obtain ⟨r, hkind, hparent⟩ := service.answer_parentFirst headers body s h ht hcollection
  obtain ⟨r', hkind', hchild⟩ := service.answer_childFirst headers body s h ht hne
  rw [hparent, hchild, service.act_of_unreadable s hkind hunreadable,
    service.act_of_unreadable s hkind' hunreadable]
  exact ⟨rfl, rfl⟩

/-- With an empty segment only the path in which the parent comes first leads to a route. -/
theorem answers_of_empty (h : parent ∈ kind.parents) :
    (∃ e : ApiError, service.answer (parentFirst kind parent "" headers body) s = (.ofError e, s) ∧
      e.category.code ≠ 404) ∧
    service.answer (childFirst kind parent "" headers body) s = (.ofError .noSuchRoute, s) := by
  have hsegment : isSegment "" = true := rfl
  have hcollection : ∀ k : Kind, k.collection ≠ "" := by
    intro k
    cases k <;> decide
  constructor
  · obtain ⟨r, hkind, hparent⟩ := service.answer_parentFirst headers body s h hsegment hcollection
    rw [hparent]
    exact service.act_listUnder_empty s hkind "id" _
  · have hfind : findRoute [kind.collection, parent.collection, ""] = none :=
      findRoute_append_empty [kind.collection, parent.collection]
    simp only [answer, segments_childFirst headers body hsegment, hfind]

/-- **Both orders of the path are answered alike exactly where the segment for the id is a text and
not empty.** This is so in every state, with any headers, and for every segment that is not the name
of a collection, whether or not it is the id of anything. A segment that is no text is answered
with the name of the parameter, which is not the same in both orders. An empty one ends the path in
which the children come first, so that no route is found there. -/
theorem orders_agree_iff (h : parent ∈ kind.parents) (ht : isSegment t = true)
    (hcollection : ∀ k : Kind, k.collection ≠ t) :
    service.answer (parentFirst kind parent t headers body) s =
        service.answer (childFirst kind parent t headers body) s ↔
      t ≠ "" ∧ (decodeSegment t).isSome = true := by
  by_cases hne : t = ""
  · subst hne
    obtain ⟨⟨e, hparent, hcode⟩, hchild⟩ := service.answers_of_empty headers body s h
    refine iff_of_false ?_ fun hreadable => hreadable.1 rfl
    rw [hparent, hchild]
    intro heq
    simp only [Prod.mk.injEq, Response.ofError, Response.json.injEq, and_true] at heq
    exact hcode heq.1
  · cases hread : decodeSegment t with
    | none =>
      obtain ⟨hparent, hchild⟩ :=
        service.answers_of_unreadable headers body s h ht hcollection hread
      refine iff_of_false ?_ fun hreadable => Bool.false_ne_true hreadable.2
      rw [hparent, hchild]
      simp [unreadableParameter]
    | some arg =>
      refine iff_of_true ?_ ⟨hne, rfl⟩
      obtain ⟨r, hkind, hparent⟩ := service.answer_parentFirst headers body s h ht hcollection
      obtain ⟨r', hkind', hchild⟩ := service.answer_childFirst headers body s h ht hne
      rw [hparent, hchild]
      refine service.act_congr s (hkind.trans hkind'.symm) ?_ rfl rfl _
      rw [argument_of_decodeSegment hread, argument_of_decodeSegment hread]

end Service

/-- The stacks under the plan with the id 1 are listed alike by both orders, for the holder of the
token and for others. -/
theorem orders_agree_stacksOfPlan :
    (.plan ∈ Kind.stacksFactory.parents ∧ isSegment "1" = true ∧
        ∀ k : Kind, k.collection ≠ "1") ∧
      ∀ headers s,
        guarded.answer (parentFirst .stacksFactory .plan "1" headers []) s =
          guarded.answer (childFirst .stacksFactory .plan "1" headers []) s := by
  have hparent : .plan ∈ Kind.stacksFactory.parents := by decide
  have hsegment : isSegment "1" = true := rfl
  have hcollection : ∀ k : Kind, k.collection ≠ "1" := by
    intro k
    cases k <;> decide
  refine ⟨⟨hparent, hsegment, hcollection⟩, fun headers s => ?_⟩
  exact (guarded.orders_agree_iff headers [] s hparent hsegment hcollection).mpr
    ⟨by decide, by decide +kernel⟩

/-- A byte that is no text is answered differently by the two orders, although it is the name of no
collection. -/
theorem orders_differ_of_unreadable :
    (.plan ∈ Kind.stacksFactory.parents ∧ isSegment "%FF" = true ∧
        ∀ k : Kind, k.collection ≠ "%FF") ∧
      ∀ headers s,
        guarded.answer (parentFirst .stacksFactory .plan "%FF" headers []) s ≠
          guarded.answer (childFirst .stacksFactory .plan "%FF" headers []) s := by
  have hparent : .plan ∈ Kind.stacksFactory.parents := by decide
  have hsegment : isSegment "%FF" = true := rfl
  have hcollection : ∀ k : Kind, k.collection ≠ "%FF" := by
    intro k
    cases k <;> decide
  refine ⟨⟨hparent, hsegment, hcollection⟩, fun headers s => ?_⟩
  have hunreadable : decodeSegment "%FF" = none := by decide +kernel
  obtain ⟨hparent, hchild⟩ :=
    guarded.answers_of_unreadable headers [] s hparent hsegment hcollection hunreadable
  rw [hparent, hchild]
  simp [unreadableParameter]

end ClusterRegistry.Http
