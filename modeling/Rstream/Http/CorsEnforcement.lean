import Rstream.Http.Cors

/-!
# Enforcement of the CORS policy

Whatever an application does with the writer it is given, the `Access-Control-*` headers of
each block on the wire are those that the policy grants to the origin of the request.
-/

namespace Rstream.Http

open Go List Policy ResponseWriter

variable {w' : ResponseWriter} {origin : String} {check : String → Except String String}
  {values out : List String}

section Blocks

/-- The blocks of headers on the wire. -/
def Response.blocks (w : Response) : List Block := w.informational ++ w.final.toList

/-- The `Access-Control-*` headers of a response to the origin. -/
def Policy.granted (p : Policy) (origin : String) (preflight : Bool) (status : Int) : Header :=
  ("Access-Control-Allow-Origin", [origin]) ::
    ((if p.credentials then [("Access-Control-Allow-Credentials", ["true"])] else []) ++
    if preflight = true ∧ status ≥ 200 ∧ status < 300 then
      [("Access-Control-Allow-Methods", [p.allowMethods]),
        ("Access-Control-Allow-Headers", [p.allowHeaders]), ("Access-Control-Max-Age", [p.maxAge])]
    else if preflight = false ∧ p.exposeHeaders ≠ "" then
      [("Access-Control-Expose-Headers", [p.exposeHeaders])]
    else [])

/-- The `Access-Control-*` headers among `h` are some of `granted`. -/
def Header.Within (h granted : Header) : Prop :=
  ∀ entry ∈ h, isAccessControl entry.1 = true → entry ∈ granted

namespace Header.Within

variable {h granted : Header} {name value : String}

theorem filter (h : Header) : Within (h.filter (!isAccessControl ·.1)) [] := by
  intro entry hentry hname
  have hkept := (mem_filter.mp hentry).2
  rw [hname] at hkept
  cases hkept

theorem nil (hwithin : Within h []) : Within h granted :=
  fun entry hentry hname => absurd (hwithin entry hentry hname) not_mem_nil

theorem set (hwithin : Within h granted) (hvalue : (name, [value]) ∈ granted) :
    Within (Header.set h name value) granted := by
  intro entry hentry hname
  obtain rfl | hentry := mem_cons.mp hentry
  · exact hvalue
  · exact hwithin entry (mem_filter.mp hentry).1 hname

theorem addVary (hwithin : Within h granted) : Within (addVary h value) granted := by
  unfold Http.addVary
  split_ifs
  · exact hwithin
  · intro entry hentry hname
    obtain rfl | hentry := mem_cons.mp hentry
    · exact absurd hname (by decide : ¬ isAccessControl "Vary" = true)
    · exact hwithin entry (mem_filter.mp hentry).1 hname

end Header.Within

namespace ResponseWriter

variable {srv : Server} {w : ResponseWriter} {status : Int}

theorem keptHeader_within (w : ResponseWriter) : w.keptHeader.Within [] := by
  have hvary : Header.Within (addVary (w.response.header.filter (!isAccessControl ·.1)) "Origin")
      [] := (Header.Within.filter _).addVary
  unfold keptHeader
  simp only
  split_ifs
  · exact hvary.addVary.addVary
  · exact hvary

theorem originHeader_within (w : ResponseWriter) (status : Int) :
    w.originHeader.Within (w.policy.granted w.origin w.preflight status) := by
  have horigin : (w.keptHeader.set "Access-Control-Allow-Origin" w.origin).Within
      (w.policy.granted w.origin w.preflight status) :=
    w.keptHeader_within.nil.set mem_cons_self
  unfold originHeader
  simp only
  split_ifs with hallow
  · exact horigin.set (by simp [granted, hallow])
  · exact horigin

/-- The headers that the policy grants to the response. -/
def granted (w : ResponseWriter) (status : Int) : Header :=
  if w.origin = "" then [] else w.policy.granted w.origin w.preflight status

/-- `WriteHeader` leaves no `Access-Control-*` header but those of the policy. -/
theorem headerFor_within (w : ResponseWriter) (status : Int) :
    (w.headerFor status).Within (w.granted status) := by
  have horigin := w.originHeader_within status
  unfold headerFor granted
  split_ifs with hnone hsuccess hexpose
  · exact w.keptHeader_within
  · refine ((horigin.set ?_).set ?_).set ?_ <;> simp [Policy.granted, hsuccess]
  · exact horigin.set (by simp [Policy.granted, hexpose])
  · exact horigin

end ResponseWriter

end Blocks

section Runs

namespace Response

variable {srv : Server} {status : Int}

theorem writeHeader_blocks {w w' : Response} (h : w.writeHeader srv status = some w') :
    w'.blocks = w.blocks ∨ w'.blocks = w.blocks ++ [⟨status, w.header⟩] := by
  unfold writeHeader at h
  split_ifs at h with hfinal hpanic hinformational
  · cases h
    exact .inl rfl
  all_goals
    cases h
    rw [Option.not_isSome_iff_eq_none] at hfinal
    simp [blocks, hfinal]

theorem writeHeader_final {w w' : Response} (hfinal : w.final = none)
    (h : w.writeHeader srv status = some w') :
    100 ≤ status ∧ status ≤ 999 ∧ w'.final.isSome = !srv.isInformational status := by
  unfold writeHeader at h
  split_ifs at h with hsent hpanic hinformational
  · simp [hfinal] at hsent
  · cases h
    exact ⟨by omega, by omega, by simp [hfinal, hinformational]⟩
  · cases h
    exact ⟨by omega, by omega, by simp [hinformational]⟩

end Response

namespace ResponseWriter

/-- Each block on the wire has only headers that the policy grants. -/
def Clean (w : ResponseWriter) : Prop :=
  ∀ block ∈ w.response.blocks, block.header.Within (w.granted block.status)

/-- The writer knows whether the final block was sent. -/
structure Sealed (w : ResponseWriter) : Prop where
  clean : w.Clean
  written : w.written = w.response.final.isSome

/-- The two writers answer the same request. -/
structure Same (w w' : ResponseWriter) : Prop where
  policy : w'.policy = w.policy
  origin : w'.origin = w.origin
  preflight : w'.preflight = w.preflight

theorem Same.granted {w : ResponseWriter} (hsame : w.Same w') : w'.granted = w.granted := by
  funext status
  simp only [ResponseWriter.granted, hsame.policy, hsame.origin, hsame.preflight]

theorem Same.rfl {w : ResponseWriter} : w.Same w := ⟨.refl _, .refl _, .refl _⟩

theorem Same.trans {w w'' : ResponseWriter} (h : w.Same w') (h' : w'.Same w'') : w.Same w'' :=
  ⟨h'.policy.trans h.policy, h'.origin.trans h.origin, h'.preflight.trans h.preflight⟩

/-- A writer that sent nothing more is clean as the one before it. -/
theorem Clean.of_blocks {w : ResponseWriter} (hclean : w.Clean) (hsame : w.Same w')
    (hblocks : w'.response.blocks = w.response.blocks) : w'.Clean := by
  intro block hblock
  rw [hsame.granted]
  exact hclean block (hblocks ▸ hblock)

variable {srv : Server} {w : ResponseWriter} {status : Int}

theorem Sealed.final_eq_none (hsealed : w.Sealed) (hwritten : ¬ w.written = true) :
    w.response.final = none := by
  rw [hsealed.written] at hwritten
  exact Option.not_isSome_iff_eq_none.mp hwritten

/-- Each block that is sent carries the headers that `WriteHeader` left. -/
theorem writeHeader_clean (srv : Server) (status : Int) (hsealed : w.Sealed) :
    w.Same (w.writeHeader srv status).1 ∧ (w.writeHeader srv status).1.Clean := by
  unfold writeHeader
  split_ifs with hwritten
  · exact ⟨.rfl, hsealed.clean⟩
  simp only
  split
  · next response hresponse =>
    have hsame : w.Same { w with
        response, written := decide (status ≥ 200 ∨ status = 101) } := ⟨rfl, rfl, rfl⟩
    refine ⟨hsame, ?_⟩
    obtain hblocks | hblocks := Response.writeHeader_blocks hresponse
    · exact hsealed.clean.of_blocks hsame hblocks
    · intro block hblock
      rw [hsame.granted]
      obtain hblock | hblock := mem_append.mp (hblocks ▸ hblock)
      · exact hsealed.clean block hblock
      · cases mem_singleton.mp hblock
        exact w.headerFor_within status
  · exact ⟨⟨rfl, rfl, rfl⟩, hsealed.clean.of_blocks ⟨rfl, rfl, rfl⟩ rfl⟩

/-- The writer and the server agree on which block is the final one. -/
theorem writeHeader_sealed (hsealed : w.Sealed)
    (hswitching : status = 101 → srv.switchingIsFinal = true)
    (hreturned : (w.writeHeader srv status).2 = true ∨ status ≤ 999) :
    (w.writeHeader srv status).1.Sealed := by
  refine ⟨(writeHeader_clean srv status hsealed).2, ?_⟩
  revert hreturned
  unfold writeHeader
  split_ifs with hwritten
  · intro _
    exact hsealed.written
  simp only
  have hfinal := hsealed.final_eq_none hwritten
  split
  · next response hresponse =>
    intro _
    obtain ⟨hlow, hhigh, hsome⟩ := Response.writeHeader_final
      (w := { w.response with header := w.headerFor status }) hfinal hresponse
    simp only [hsome, Server.isInformational]
    by_cases hstatus : status = 101
    · simp [hstatus, hswitching hstatus]
    · have hiff : status ≥ 200 ↔ ¬ status ≤ 199 := by omega
      rw [Bool.eq_iff_iff]
      simp [hstatus, hlow, hiff]
  · next hpanic =>
    intro hreturned
    have hinvalid : status < 100 ∨ 999 < status := by
      simp only [Response.writeHeader, hfinal] at hpanic
      split_ifs at hpanic with hnone hinvalid
      exact hinvalid
    have hlow : status < 100 := by
      obtain hreturned | hhigh := hreturned
      · cases hreturned
      · omega
    simp only [hfinal, Option.isSome_none, decide_eq_false_iff_not]
    omega

theorem writeHeader_written (hstatus : 200 ≤ status) :
    (w.writeHeader srv status).1.written = true := by
  unfold writeHeader
  split_ifs with hwritten
  · exact hwritten
  · simp only
    split <;> exact decide_eq_true (.inl hstatus)

theorem writeHeader_status {block : Block}
    (hblock : block ∈ (w.writeHeader srv status).1.response.blocks) :
    block ∈ w.response.blocks ∨ block.status = status := by
  unfold writeHeader at hblock
  split_ifs at hblock with hwritten
  · exact .inl hblock
  · simp only at hblock
    split at hblock
    · next response hresponse =>
      obtain hblocks | hblocks := Response.writeHeader_blocks hresponse
      · exact .inl (hblocks ▸ hblock)
      · obtain hblock | hblock := mem_append.mp (hblocks ▸ hblock)
        · exact .inl hblock
        · exact .inr (mem_singleton.mp hblock ▸ rfl)
    · exact .inl hblock

theorem commit_sealed (srv : Server) (hsealed : w.Sealed) :
    w.Same (w.commit srv) ∧ (w.commit srv).Sealed ∧ (w.commit srv).response.final.isSome := by
  have hcommit : w.Same (w.commit srv) ∧ (w.commit srv).Sealed ∧ (w.commit srv).written = true := by
    unfold commit
    split_ifs with hwritten
    · exact ⟨.rfl, hsealed, hwritten⟩
    · refine ⟨(writeHeader_clean srv 200 hsealed).1, writeHeader_sealed hsealed nofun
        (.inr (by decide)), writeHeader_written (by decide)⟩
  obtain ⟨hsame, hsealed', hwritten⟩ := hcommit
  exact ⟨hsame, hsealed', hsealed'.written ▸ hwritten⟩

theorem write_sealed (srv : Server) (data : List UInt8) (hsealed : w.Sealed) :
    w.Same (w.write srv data) ∧ (w.write srv data).Sealed := by
  obtain ⟨hsame, hsealed', hsome⟩ := commit_sealed srv hsealed
  have hresponse : (w.commit srv).response.implicitHeader = (w.commit srv).response := if_pos hsome
  have hsame' : w.Same (w.write srv data) := ⟨hsame.policy, hsame.origin, hsame.preflight⟩
  refine ⟨hsame', hsealed'.clean.of_blocks ⟨rfl, rfl, rfl⟩ ?_, ?_⟩
  · simp only [write, Response.write, hresponse, Response.blocks]
  · simpa only [write, Response.write, hresponse] using hsealed'.written

theorem write_blocks (srv : Server) (data : List UInt8) (hsealed : w.Sealed)
    (hwritten : w.written = true) : (w.write srv data).response.blocks = w.response.blocks := by
  have hcommit : w.commit srv = w := if_pos hwritten
  have hresponse : w.response.implicitHeader = w.response := if_pos (hsealed.written ▸ hwritten)
  simp only [write, hcommit, Response.write, hresponse, Response.blocks]

theorem edit_sealed (f : Header → Header) (hsealed : w.Sealed) : (w.edit f).Sealed :=
  ⟨hsealed.clean.of_blocks ⟨rfl, rfl, rfl⟩ rfl, hsealed.written⟩

theorem flush_sealed (srv : Server) (hsealed : w.Sealed) : w.Same (w.flush srv) ∧ (w.flush srv).Sealed := by
  obtain ⟨hsame, hsealed', hsome⟩ := commit_sealed srv hsealed
  have hresponse : (w.commit srv).response.implicitHeader = (w.commit srv).response := if_pos hsome
  have hflush : w.flush srv = w.commit srv := by
    simp only [flush, Response.flush, hresponse]
  rw [hflush]
  exact ⟨hsame, hsealed'⟩

/-- `http.Error` sends one block more. -/
theorem error_cors (srv : Server) (message : String) (hsealed : w.Sealed) :
    ∃ w', (Writer.cors w).error srv message 403 = .cors w' ∧ w.Same w' ∧ w'.Sealed ∧
      ∀ block ∈ w'.response.blocks, block ∈ w.response.blocks ∨ block.status = 403 := by
  have hedited := edit_sealed Writer.errorHeader hsealed
  obtain ⟨hsame, _⟩ := writeHeader_clean srv 403 hedited
  have hsent : (((w.edit Writer.errorHeader).writeHeader srv 403).1).Sealed :=
    writeHeader_sealed hedited nofun (.inr (by decide))
  obtain ⟨hsame', hsealed'⟩ := write_sealed srv (utf8 (message ++ "\n")) hsent
  have hsame₀ : w.Same (w.edit Writer.errorHeader) := ⟨rfl, rfl, rfl⟩
  refine ⟨((w.edit Writer.errorHeader).writeHeader srv 403).1.write srv (utf8 (message ++ "\n")),
    rfl, hsame₀.trans (hsame.trans hsame'), hsealed', fun block hblock => ?_⟩
  have hblocks := write_blocks srv (utf8 (message ++ "\n")) hsent (writeHeader_written (by decide))
  rw [hblocks] at hblock
  exact writeHeader_status (w := w.edit Writer.errorHeader) hblock

end ResponseWriter

/-- The server takes a final status of the writer for final, and the handler does not go on after
the panic for a status that the writer takes for final. -/
def Call.Regular (srv : Server) : Call → Prop
  | writeHeader status recovers =>
    (status = 101 → srv.switchingIsFinal = true) ∧ (recovers = true → status ≤ 999)
  | _ => True

/-- What one call leaves behind: a clean writer, and a sealed one if the handler goes on. -/
theorem Call.apply_cors {srv : Server} {w : ResponseWriter} {call : Call}
    (hregular : call.Regular srv) (hsealed : w.Sealed) :
    ∃ w', (call.apply srv (.cors w)).1 = .cors w' ∧ w.Same w' ∧ w'.Clean ∧
      ((call.apply srv (.cors w)).2 = true → w'.Sealed) := by
  cases call with
  | edit f =>
    have hsealed' := edit_sealed f hsealed
    exact ⟨_, rfl, ⟨rfl, rfl, rfl⟩, hsealed'.clean, fun _ => hsealed'⟩
  | writeHeader status recovers =>
    obtain ⟨hsame, hclean⟩ := writeHeader_clean srv status hsealed
    refine ⟨_, rfl, hsame, hclean, fun hgoes => ?_⟩
    refine writeHeader_sealed hsealed hregular.1 ?_
    exact (Bool.or_eq_true_iff.mp hgoes).imp_right hregular.2
  | write data =>
    obtain ⟨hsame, hsealed'⟩ := write_sealed srv data hsealed
    exact ⟨_, rfl, hsame, hsealed'.clean, fun _ => hsealed'⟩
  | flush =>
    obtain ⟨hsame, hsealed'⟩ := flush_sealed srv hsealed
    exact ⟨_, rfl, hsame, hsealed'.clean, fun _ => hsealed'⟩
  | control => exact ⟨w, rfl, .rfl, hsealed.clean, fun _ => hsealed⟩

/-- What a handler leaves behind. -/
theorem serveHTTP_cors {srv : Server} {calls : List Call}
    (hregular : ∀ call ∈ calls, call.Regular srv) {w : ResponseWriter} (hsealed : w.Sealed) :
    ∃ w', (serveHTTP srv calls (.cors w)).1 = .cors w' ∧ w.Same w' ∧ w'.Clean ∧
      ((serveHTTP srv calls (.cors w)).2 = true → w'.Sealed) := by
  induction calls generalizing w with
  | nil => exact ⟨w, rfl, .rfl, hsealed.clean, fun _ => hsealed⟩
  | cons call calls ih =>
    obtain ⟨w', hcall, hsame, hclean, hgoes⟩ :=
      Call.apply_cors (hregular call mem_cons_self) hsealed
    unfold serveHTTP
    split
    · next next heq =>
      rw [heq] at hcall hgoes
      obtain ⟨w'', hrest, hsame', hrest'⟩ :=
        ih (fun c hc => hregular c (mem_cons_of_mem _ hc)) (hgoes rfl)
      cases hcall
      exact ⟨w'', hrest, hsame.trans hsame', hrest'⟩
    · next stopped heq =>
      rw [heq] at hcall
      exact ⟨w', hcall, hsame, hclean, nofun⟩

end Runs

section Admission

variable {lib : Library} {srv : Server} {c : CorsConfig} {p : Policy} {r : Request}

theorem normalizeOrigin_ne_empty {value : String}
    (h : normalizeOrigin lib value = .ok origin) : value ≠ "" ∧ origin ≠ "" := by
  unfold normalizeOrigin at h
  split at h
  · cases h
  · next u hu =>
    obtain ⟨_, hvalid, h⟩ := bind_eq_ok.mp h
    obtain ⟨_, _, h⟩ := bind_eq_ok.mp h
    cases h
    constructor
    · rintro rfl
      have hscheme := lib.urlParse_empty u hu
      exact failIf_eq_ok.mp hvalid (.inl (by simp [hscheme]))
    · intro hempty
      have := congrArg String.toList hempty
      simp at this

/-- The origin is the request's own: that of its scheme and host, which `Wrap` normalizes and
`Prepare` normalizes again. -/
def OwnOrigin (lib : Library) (r : Request) (origin : String) : Prop :=
  ∃ target, normalizeOrigin lib r.ownOrigin = .ok target ∧ normalizeOrigin lib target = .ok origin

/-- The request has one `Origin`, of the given normal form. -/
def HasOrigin (lib : Library) (r : Request) (origin : String) : Prop :=
  ∃ value, r.header.values "Origin" = [value] ∧ normalizeOrigin lib value = .ok origin

theorem ownOrigin_of_same (horigin : origin ≠ "")
    (h : origin = (normalizeOrigin lib (targetOrigin lib r)).toOption.getD "") :
    OwnOrigin lib r origin := by
  unfold targetOrigin at h
  have hnormal : ∀ {target}, origin = (normalizeOrigin lib target).toOption.getD "" →
      normalizeOrigin lib target = .ok origin := by
    intro target h
    cases htarget : normalizeOrigin lib target with
    | error err =>
      rw [htarget] at h
      exact absurd h horigin
    | ok origin' =>
      rw [htarget] at h
      exact congrArg _ h.symm
  cases hown : normalizeOrigin lib r.ownOrigin with
  | error err =>
    rw [hown] at h
    exact absurd rfl (normalizeOrigin_ne_empty (hnormal (show origin = (normalizeOrigin lib "").toOption.getD "" from h))).1
  | ok target =>
    rw [hown] at h
    exact ⟨target, hown, hnormal h⟩

theorem normalizeValues_mem
    {size total : Nat} (h : normalizeValues check values size = .ok (out, total)) :
    ∀ o ∈ out, ∃ v ∈ values, check v = .ok o := by
  induction values generalizing size out with
  | nil =>
    cases h
    nofun
  | cons value values ih =>
    obtain ⟨_, _, h⟩ := bind_eq_ok.mp h
    obtain ⟨normal, hnormal, h⟩ := bind_eq_ok.mp h
    obtain ⟨⟨rest, size'⟩, hrest, h⟩ := bind_eq_ok.mp h
    cases h
    intro o ho
    obtain rfl | ho := mem_cons.mp ho
    · exact ⟨value, mem_cons_self, hnormal⟩
    · obtain ⟨v, hv, hcheck⟩ := ih hrest o ho
      exact ⟨v, mem_cons_of_mem _ hv, hcheck⟩

theorem normalizeGroup_mem
    {size total : Nat} (h : normalizeGroup check values size = .ok (out, total)) :
    ∀ o ∈ out, ∃ v ∈ values, check v = .ok o := by
  obtain ⟨_, _, h⟩ := bind_eq_ok.mp h
  exact normalizeValues_mem h

/-- The origins and methods of a policy are those of its configuration. -/
theorem Policy.new_allowed (h : Policy.new lib (some c) = .ok (some p)) :
    (∀ origin ∈ p.origins, ∃ a ∈ c.allowedOrigins, normalizeOrigin lib a = .ok origin) ∧
      ∀ method ∈ p.methods, ∃ a ∈ c.methods, normalizeMethod a = .ok method := by
  obtain ⟨c', hnormal, h⟩ := bind_eq_ok.mp h
  cases h
  obtain ⟨_, _, h⟩ := bind_eq_ok.mp hnormal
  obtain ⟨_, _, h⟩ := bind_eq_ok.mp h
  obtain ⟨⟨origins, size⟩, horigins, h⟩ := bind_eq_ok.mp h
  obtain ⟨⟨methods, size'⟩, hmethods, h⟩ := bind_eq_ok.mp h
  obtain ⟨_, _, h⟩ := bind_eq_ok.mp h
  obtain ⟨_, _, h⟩ := bind_eq_ok.mp h
  cases h
  exact ⟨normalizeGroup_mem horigins, normalizeGroup_mem hmethods⟩

/-- What the policy says of the origin of a request: it is allowed or the request's own. -/
def Policy.Admits (lib : Library) (p : Policy) (r : Request) : Prop :=
  ∃ origin, HasOrigin lib r origin ∧ (origin ∈ p.origins ∨ OwnOrigin lib r origin)

/-- The writer that `Prepare` returns. -/
structure Prepared (lib : Library) (p : Policy) (r : Request) (w : ResponseWriter) : Prop where
  policy : w.policy = p
  admits : w.origin ≠ "" →
    w.origin = r.header.get "Origin" ∧ w.preflight = isPreflight r ∧ p.Admits lib r

/-- The request goes on to the application, unless it is a preflight. -/
def Policy.Passes (lib : Library) (p : Policy) (r : Request) : Prop :=
  r.header.values "Origin" = [] ∨
    ∃ origin, HasOrigin lib r origin ∧ (OwnOrigin lib r origin ∨ origin ∈ p.origins ∧
      (isPreflight r = true ∨ r.method ∈ p.methods))

theorem ResponseWriter.Sealed.fresh (p : Policy) (header : Header) (origin : String)
    (preflight : Bool) : Sealed ⟨.fresh header, p, origin, preflight, false⟩ :=
  ⟨nofun, rfl⟩

/-- A request that is not refused for its origin has one, and it is allowed or the request's
own. -/
theorem Policy.admits_of_not_refused (h : ¬ ((r.header.values "Origin").length ≠ 1 ∨
      (normalizeOrigin lib (r.header.get "Origin")).toOption.isNone = true ∨
      ((normalizeOrigin lib (r.header.get "Origin")).toOption ==
        some ((normalizeOrigin lib (targetOrigin lib r)).toOption.getD "")) = false ∧
      p.origins.contains ((normalizeOrigin lib (r.header.get "Origin")).toOption.getD "") =
        false)) :
    ∃ origin, HasOrigin lib r origin ∧
      (normalizeOrigin lib (r.header.get "Origin")).toOption = some origin ∧
      (OwnOrigin lib r origin ∨ origin ∈ p.origins) := by
  rw [not_or, not_or] at h
  obtain ⟨hone, hvalid, hallowed⟩ := h
  obtain ⟨value, hvalue⟩ := length_eq_one_iff.mp (not_not.mp hone)
  have hget : r.header.get "Origin" = value := by rw [Header.get, hvalue]; rfl
  rw [hget] at hvalid hallowed ⊢
  cases hnormal : normalizeOrigin lib value with
  | error err =>
    rw [hnormal] at hvalid
    exact absurd rfl hvalid
  | ok origin =>
    rw [hnormal] at hallowed
    refine ⟨origin, ⟨value, hvalue, hnormal⟩, rfl, ?_⟩
    by_cases hmem : origin ∈ p.origins
    · exact .inr hmem
    · refine .inl (ownOrigin_of_same (normalizeOrigin_ne_empty hnormal).2 ?_)
      by_contra hdiffers
      refine hallowed ⟨?_, ?_⟩
      · simpa [Except.toOption] using hdiffers
      · simpa [Except.toOption] using hmem

theorem HasOrigin.get_ne_empty (h : HasOrigin lib r origin) :
    r.header.get "Origin" ≠ "" ∧ origin ≠ "" := by
  obtain ⟨value, hvalue, hnormal⟩ := h
  have hget : r.header.get "Origin" = value := by rw [Header.get, hvalue]; rfl
  exact hget ▸ normalizeOrigin_ne_empty hnormal

theorem Policy.isPreflight_eq (horigin : r.header.get "Origin" ≠ "") :
    (r.method == "OPTIONS" && r.header.get "Access-Control-Request-Method" != "") =
      isPreflight r := by
  rw [isPreflight, bne_iff_ne.mpr horigin, Bool.and_true]

theorem Policy.prepare_cors (lib : Library) (srv : Server) (p : Policy)
    (hconnect : r.method ≠ "CONNECT") (header : Header) :
    ∃ w', (p.prepare lib srv (.fresh header) r (targetOrigin lib r)).1 = .cors w' ∧
      Prepared lib p r w' ∧ w'.Sealed ∧ (∀ block ∈ w'.response.blocks, block.status = 403) ∧
      ((p.prepare lib srv (.fresh header) r (targetOrigin lib r)).2 = true →
        w'.response.blocks = [] ∧ p.Passes lib r) := by
  unfold prepare
  rw [if_neg hconnect]
  simp only
  split_ifs with hnone hrefused hmethod
  · refine ⟨_, rfl, ⟨rfl, fun h => absurd rfl h⟩, .fresh .., nofun, fun _ => ⟨rfl, .inl ?_⟩⟩
    exact length_eq_zero_iff.mp hnone
  · obtain ⟨w', hw', hsame, hsealed, hstatus⟩ := error_cors srv
      "Browser origin is not allowed" (Sealed.fresh p header "" false)
    refine ⟨w', hw', ⟨hsame.policy, fun h => absurd hsame.origin h⟩, hsealed, fun block hblock => ?_,
      nofun⟩
    exact (hstatus block hblock).resolve_left not_mem_nil
  all_goals
    obtain ⟨origin, hhas, hnormal, hallowed⟩ := admits_of_not_refused hrefused
    have hpreflight := isPreflight_eq hhas.get_ne_empty.1
    have hadmits : p.Admits lib r := ⟨origin, hhas, hallowed.symm⟩
  · obtain ⟨w', hw', hsame, hsealed, hstatus⟩ := error_cors srv
      "Browser method is not allowed" (Sealed.fresh p header (r.header.get "Origin")
        (r.method == "OPTIONS" && r.header.get "Access-Control-Request-Method" != ""))
    refine ⟨w', hw', ⟨hsame.policy, fun _ => ⟨hsame.origin, hsame.preflight.trans hpreflight,
      hadmits⟩⟩, hsealed, fun block hblock => ?_, nofun⟩
    exact (hstatus block hblock).resolve_left not_mem_nil
  · refine ⟨_, rfl, ⟨rfl, fun horigin => ⟨rfl, hpreflight, hadmits⟩⟩, .fresh .., nofun,
      fun _ => ⟨rfl, .inr ⟨origin, hhas, ?_⟩⟩⟩
    rw [hpreflight, hnormal] at hmethod
    obtain hown | hmem := hallowed
    · exact .inl hown
    · by_cases hsame : origin = (normalizeOrigin lib (targetOrigin lib r)).toOption.getD ""
      · exact .inl (ownOrigin_of_same hhas.get_ne_empty.2 hsame)
      · refine .inr ⟨hmem, ?_⟩
        have hdiffers : (some origin ==
            some ((normalizeOrigin lib (targetOrigin lib r)).toOption.getD "")) = false := by
          simpa using hsame
        rw [hdiffers] at hmethod
        simpa [Decidable.or_iff_not_imp_left] using hmethod

variable {w : ResponseWriter}

theorem Prepared.same (h : Prepared lib p r w) (hsame : w.Same w') : Prepared lib p r w' := by
  refine ⟨hsame.policy.trans h.policy, fun horigin => ?_⟩
  obtain ⟨hget, hpreflight, hadmits⟩ := h.admits (hsame.origin ▸ horigin)
  exact ⟨hsame.origin.trans hget, hsame.preflight.trans hpreflight, hadmits⟩

/-- A preflight is answered with success only if the policy allows it. -/
theorem Policy.preflight_cors (srv : Server) (hsealed : w.Sealed)
    (hpreflight : isPreflight r = true) :
    ∃ w', p.preflight srv (.cors w) r = some (.cors w') ∧ w.Same w' ∧ w'.Clean ∧
      ∀ block ∈ w'.response.blocks, block ∈ w.response.blocks ∨ block.status = 403 ∨
        block.status = 204 ∧ p.preflightValid r = true := by
  unfold preflight
  rw [if_pos hpreflight]
  split_ifs with hvalid
  · obtain ⟨hsame, hclean⟩ := writeHeader_clean srv 204 hsealed
    refine ⟨(w.writeHeader srv 204).1, rfl, hsame, hclean, fun block hblock => ?_⟩
    exact (writeHeader_status hblock).imp_right fun h => .inr ⟨h, hvalid⟩
  · obtain ⟨w', hw', hsame, hsealed', hstatus⟩ := error_cors srv
      "CORS preflight is not allowed" hsealed
    exact ⟨w', congrArg some hw', hsame, hsealed'.clean,
      fun block hblock => (hstatus block hblock).imp_right .inl⟩

/-- The writer at the end of a request, and what came before it. -/
theorem Policy.wrap_cors (lib : Library) (p : Policy) {next : List Call}
    (hconnect : r.method ≠ "CONNECT")
    (hregular : ∀ call ∈ next, call.Regular srv) (header : Header) :
    ∃ w', (p.wrap lib srv next (.fresh header) r).response = w'.response ∧
      Prepared lib p r w' ∧ w'.Clean ∧
      ((p.wrap lib srv next (.fresh header) r).invoked = true →
        isPreflight r = false ∧ p.Passes lib r) ∧
      (isPreflight r = true → ∀ block ∈ w'.response.blocks,
        block.status = 403 ∨ block.status = 204 ∧ p.preflightValid r = true) := by
  obtain ⟨w₁, hw₁, hprepared, hsealed, hrefused, hpasses⟩ :=
    prepare_cors lib srv p hconnect header
  unfold wrap
  split
  · next w heq =>
    rw [heq] at hw₁
    cases hw₁
    exact ⟨w₁, rfl, hprepared, hsealed.clean, nofun, fun _ block hblock => .inl (hrefused block hblock)⟩
  · next w heq =>
    rw [heq] at hw₁ hpasses
    cases hw₁
    obtain ⟨hblocks, hpasses⟩ := hpasses rfl
    cases hpreflight : isPreflight r with
    | true =>
      obtain ⟨w₂, hw₂, hsame, hclean, hstatus⟩ := preflight_cors (p := p) srv hsealed hpreflight
      rw [hw₂]
      refine ⟨w₂, rfl, hprepared.same hsame, hclean, nofun, fun _ block hblock => ?_⟩
      exact (hstatus block hblock).resolve_left (hblocks ▸ not_mem_nil)
    | false =>
      have hnone : p.preflight srv (.cors w₁) r = none := if_neg (by rw [hpreflight]; decide)
      rw [hnone]
      obtain ⟨w₂, hw₂, hsame, hclean, hreturned⟩ := serveHTTP_cors hregular hsealed
      simp only
      split
      · next w heq' =>
        rw [heq'] at hw₂ hreturned
        cases hw₂
        obtain ⟨hsame', hclean'⟩ := writeHeader_clean srv 200 (hreturned rfl)
        exact ⟨(w₂.writeHeader srv 200).1, rfl, hprepared.same (hsame.trans hsame'), hclean',
          fun _ => ⟨trivial, hpasses⟩, nofun⟩
      · next w heq' =>
        rw [heq'] at hw₂
        cases hw₂
        exact ⟨w₂, rfl, hprepared.same hsame, hclean, fun _ => ⟨trivial, hpasses⟩, nofun⟩

end Admission

section Enforcement

variable {lib : Library} {srv : Server} {c : CorsConfig} {p : Policy} {r : Request}

/-- The request has exactly one `Origin`, and it normalizes to an origin of the configuration or to
the request's own. -/
def AllowedOrigin (lib : Library) (c : CorsConfig) (r : Request) : Prop :=
  ∃ origin, HasOrigin lib r origin ∧
    ((∃ a ∈ c.allowedOrigins, normalizeOrigin lib a = .ok origin) ∨ OwnOrigin lib r origin)

/-- The request comes from another origin, and that origin or the method is not allowed. -/
def Disallowed (lib : Library) (c : CorsConfig) (r : Request) : Prop :=
  r.header.values "Origin" ≠ [] ∧ ¬ ∃ origin, HasOrigin lib r origin ∧
    (OwnOrigin lib r origin ∨ (∃ a ∈ c.allowedOrigins, normalizeOrigin lib a = .ok origin) ∧
      ∃ a ∈ c.methods, normalizeMethod a = .ok r.method)

/-- The policy is enforced in the response to a request. -/
structure Enforced (lib : Library) (c : CorsConfig) (p : Policy) (r : Request)
    (outcome : Outcome) : Prop where
  /-- The final block allows an origin only if it is allowed. -/
  allowOrigin : ∀ block ∈ outcome.response.final, ∀ entry ∈ block.header,
    lowerName entry.1 = "access-control-allow-origin" →
      AllowedOrigin lib c r ∧ entry.2 = [r.header.get "Origin"]
  /-- All `Access-Control-*` headers on the wire are those of the policy. -/
  application : ∀ block ∈ outcome.response.blocks, ∀ entry ∈ block.header,
    isAccessControl entry.1 = true → AllowedOrigin lib c r ∧
      entry ∈ p.granted (r.header.get "Origin") (isPreflight r) block.status
  /-- The application is called neither for what is not allowed nor for a preflight. -/
  invoked : outcome.invoked = true → isPreflight r = false ∧ ¬ Disallowed lib c r
  /-- Methods and headers are listed only in the answer to a preflight that succeeds. -/
  negotiation : ∀ block ∈ outcome.response.blocks, ∀ entry ∈ block.header,
    lowerName entry.1 = "access-control-allow-methods" ∨
      lowerName entry.1 = "access-control-allow-headers" →
      isPreflight r = true ∧ p.preflightValid r = true ∧ block.status = 204

/-- The headers that the policy grants, by their names. -/
theorem Policy.mem_granted {preflight : Bool} {status : Int}
    {entry : String × List String} (hentry : entry ∈ p.granted origin preflight status) :
    (lowerName entry.1 = "access-control-allow-origin" → entry.2 = [origin]) ∧
      (lowerName entry.1 = "access-control-allow-methods" ∨
        lowerName entry.1 = "access-control-allow-headers" →
        preflight = true ∧ 200 ≤ status ∧ status < 300) := by
  simp only [granted, mem_cons, mem_append] at hentry
  obtain rfl | hentry | hentry := hentry
  · exact ⟨fun _ => rfl, fun h => absurd h (by dsimp only; decide)⟩
  · split_ifs at hentry
    · cases mem_singleton.mp hentry
      exact ⟨fun h => absurd h (by dsimp only; decide), fun h => absurd h (by dsimp only; decide)⟩
    · cases hentry
  · split_ifs at hentry with hsuccess hexpose
    · simp only [mem_cons, not_mem_nil, or_false] at hentry
      refine ⟨fun h => ?_, fun _ => hsuccess⟩
      obtain rfl | rfl | rfl := hentry <;> exact absurd h (by dsimp only; decide)
    · cases mem_singleton.mp hentry
      exact ⟨fun h => absurd h (by dsimp only; decide), fun h => absurd h (by dsimp only; decide)⟩
    · cases hentry

/-- Headers of these names are among those that `WriteHeader` deletes. -/
theorem isAccessControl_of_lowerName {name lower : String} (hlower : lowerName name = lower)
    (hstarts : hasPrefix lower "access-control-" = true) : isAccessControl name = true :=
  (congrArg (hasPrefix · "access-control-") hlower).trans hstarts

theorem policy_enforced (hnew : new lib (some c) = .ok (some p))
    (hconnect : r.method ≠ "CONNECT") {next : List Call}
    (hregular : ∀ call ∈ next, call.Regular srv) (header : Header) :
    Enforced lib c p r (p.wrap lib srv next (.fresh header) r) := by
  obtain ⟨horigins, hmethods⟩ := new_allowed hnew
  obtain ⟨w, hresponse, hprepared, hclean, hinvoked, hstatus⟩ :=
    wrap_cors lib p hconnect hregular header
  have happlication : ∀ block ∈ w.response.blocks, ∀ entry ∈ block.header,
      isAccessControl entry.1 = true → AllowedOrigin lib c r ∧
        entry ∈ p.granted (r.header.get "Origin") (isPreflight r) block.status := by
    intro block hblock entry hentry hname
    have hgranted := hclean block hblock entry hentry hname
    unfold ResponseWriter.granted at hgranted
    split_ifs at hgranted with hnone
    · cases hgranted
    · obtain ⟨horigin, hpreflight, origin, hhas, hadmits⟩ := hprepared.admits hnone
      rw [hprepared.policy, horigin, hpreflight] at hgranted
      exact ⟨⟨origin, hhas, hadmits.imp_left (horigins origin)⟩, hgranted⟩
  refine ⟨?_, ?_, fun hcalled => ?_, ?_⟩
  · intro block hblock entry hentry hname
    have hmem : block ∈ w.response.blocks :=
      mem_append_right _ (Option.mem_toList.mpr (hresponse ▸ hblock))
    obtain ⟨hallowed, hgranted⟩ := happlication block hmem entry hentry
      (isAccessControl_of_lowerName hname (by decide))
    exact ⟨hallowed, (mem_granted hgranted).1 hname⟩
  · rw [hresponse]
    exact happlication
  · obtain ⟨hpreflight, hpasses⟩ := hinvoked hcalled
    refine ⟨hpreflight, fun hdisallowed => ?_⟩
    obtain hnone | ⟨origin, hhas, hown | ⟨hmem, hmethod⟩⟩ := hpasses
    · exact hdisallowed.1 hnone
    · exact hdisallowed.2 ⟨origin, hhas, .inl hown⟩
    · rw [hpreflight] at hmethod
      have hmethod := hmethod.resolve_left nofun
      exact hdisallowed.2 ⟨origin, hhas, .inr ⟨horigins origin hmem, hmethods r.method hmethod⟩⟩
  · rw [hresponse]
    intro block hblock entry hentry hname
    have haccess : isAccessControl entry.1 = true :=
      hname.elim (isAccessControl_of_lowerName · (by decide))
        (isAccessControl_of_lowerName · (by decide))
    obtain ⟨_, hgranted⟩ := happlication block hblock entry hentry haccess
    obtain ⟨hpreflight, hlow, hhigh⟩ := (mem_granted hgranted).2 hname
    obtain hrefused | ⟨hsuccess, hvalid⟩ := hstatus hpreflight block hblock
    · omega
    · exact ⟨hpreflight, hvalid, hsuccess⟩

/-- A library that knows one origin. -/
def sampleLibrary : Library where
  urlParse value :=
    if value = "https://app.example" then some ⟨"https", "app.example", false, "", "", false, ""⟩
    else none
  toLower := lowerName
  urlParse_empty u h := by simp at h

/-- A configuration for that origin. -/
def sampleCors : CorsConfig := ⟨["https://app.example"], [], [], [], false, 600⟩

/-- An application that allows every origin, and a request for it. -/
def sampleCalls : List Call :=
  [.edit (·.set "Access-Control-Allow-Origin" "*"), .writeHeader 200 false]

/-- A request without an origin. -/
def sampleRequest (method : String) : Request := ⟨method, "files.example", true, []⟩

theorem policy_enforced_sample :
    ∃ p, new sampleLibrary (some sampleCors) = .ok (some p) ∧
      Enforced sampleLibrary sampleCors p (sampleRequest "GET")
        (p.wrap sampleLibrary ⟨true⟩ sampleCalls (.fresh []) (sampleRequest "GET")) :=
  ⟨_, rfl, policy_enforced rfl (by decide) (by simp [sampleCalls, Call.Regular]) []⟩

/-- The policy leaves `CONNECT` to the application. -/
theorem connect_passes :
    ∃ p, new sampleLibrary (some sampleCors) = .ok (some p) ∧
      (sampleRequest "CONNECT").header.values "Origin" = [] ∧
      ∃ block, (p.wrap sampleLibrary ⟨true⟩ sampleCalls (.fresh [])
          (sampleRequest "CONNECT")).response.final = some block ∧
        ("Access-Control-Allow-Origin", ["*"]) ∈ block.header :=
  ⟨_, rfl, rfl, _, rfl, by decide⟩

end Enforcement

end Rstream.Http
