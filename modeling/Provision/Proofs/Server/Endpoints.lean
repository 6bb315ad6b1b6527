import Provision.Proofs.Server.Routing
import Provision.Proofs.Text.Split

namespace Provision

/-!
# Endpoints whose hosts are looked up

An endpoint is taken apart at its last colon, so that its port has none.  A host that stands by
itself has no colon either, and it neither begins with a bracket nor has a closing one; between
brackets anything is taken for a host.  What cannot be taken apart is refused, and nothing is looked
up for it.  A host and a port are joined such that they are taken apart again.
-/

namespace Endpoint

/-- The texts that are taken for an endpoint. -/
inductive Spells : Endpoint → List Char → Prop
  | plain {host port : List Char} (noColon : ':' ∉ host) (noClosing : ']' ∉ host)
      (noOpening : host.head? ≠ some '[') (portFree : ':' ∉ port) :
      Spells ⟨host, port⟩ (host ++ ':' :: port)
  | bracketed {host port : List Char} (portFree : ':' ∉ port) :
      Spells ⟨host, port⟩ ('[' :: host ++ ']' :: ':' :: port)

variable {text host port : List Char} {e : Endpoint}

theorem unbracket?_eq_some_iff {inner : List Char} :
    unbracket? inner = some host ↔ inner = host ++ [']'] := by
  constructor
  · intro h
    rw [unbracket?] at h
    split at h
    · next before hreverse =>
      obtain rfl := Option.some.inj h
      rw [← List.reverse_reverse inner, hreverse, List.reverse_cons]
    · cases h
  · rintro rfl
    exact unbracket?_append host

theorem parse?_plain (hcut : Text.cutLast ':' text = some (host, port))
    (hopening : host.head? ≠ some '[') :
    parse? text = if ':' ∈ host ∨ ']' ∈ host then none else some ⟨host, port⟩ := by
  rw [parse?, hcut]
  rcases host with _ | ⟨c, host⟩
  · rfl
  · have hc : c ≠ '[' := by simpa using hopening
    split
    · next heq => cases heq
    · next heq =>
      obtain ⟨hbracket, -⟩ : c :: host = '[' :: _ ∧ _ := by simpa using heq
      exact absurd (List.cons.inj hbracket).1 hc
    · next heq =>
      obtain ⟨rfl, rfl⟩ : c :: host = _ ∧ port = _ := by simpa using heq
      rfl

theorem parse?_bracketed {inner : List Char}
    (hcut : Text.cutLast ':' text = some ('[' :: inner, port)) :
    parse? text = (unbracket? inner).map (⟨·, port⟩) := by
  simp only [parse?, hcut]

theorem spells_of_parse? (h : parse? text = some e) : e.Spells text := by
  rcases hcut : Text.cutLast ':' text with _ | ⟨before, port⟩
  · simp [parse?, hcut] at h
  · obtain ⟨rfl, hport⟩ := Text.eq_of_cutLast hcut
    by_cases hopening : before.head? = some '['
    · obtain ⟨inner, rfl⟩ := List.head?_eq_some_iff.mp hopening
      rw [parse?_bracketed hcut, Option.map_eq_some_iff] at h
      obtain ⟨host, hinner, rfl⟩ := h
      rw [unbracket?_eq_some_iff.mp hinner]
      simpa using @Spells.bracketed host port hport
    · rw [parse?_plain hcut hopening] at h
      split at h
      · cases h
      · next hstray =>
        obtain rfl := Option.some.inj h
        obtain ⟨hcolon, hclosing⟩ := not_or.mp hstray
        exact .plain hcolon hclosing hopening hport

theorem parse?_of_spells (h : e.Spells text) : parse? text = some e := by
  cases h with
  | @plain host port noColon noClosing noOpening portFree =>
      rw [parse?_plain (Text.cutLast_append_cons host portFree) noOpening,
        if_neg (not_or.mpr ⟨noColon, noClosing⟩)]
  | @bracketed host port portFree =>
      have hcut := Text.cutLast_append_cons ('[' :: (host ++ [']'])) portFree
      have htext : '[' :: host ++ ']' :: ':' :: port = '[' :: (host ++ [']']) ++ ':' :: port := by
        simp
      rw [htext, parse?_bracketed hcut, unbracket?_append, Option.map_some]

/-- A host and a port in one text, in which a host with colons of its own stands in brackets. -/
def join (e : Endpoint) : List Char :=
  if ':' ∈ e.host then '[' :: e.host ++ ']' :: ':' :: e.port else e.host ++ ':' :: e.port

theorem spells_join (hopening : '[' ∉ host) (hclosing : ']' ∉ host) (hport : ':' ∉ port) :
    Spells ⟨host, port⟩ (join ⟨host, port⟩) := by
  unfold join
  split
  · exact .bracketed hport
  · next hcolon =>
    have hhead : host.head? ≠ some '[' := fun h => hopening (List.mem_of_head? h)
    exact .plain hcolon hclosing hhead hport

/-- Outside of brackets there is one colon, so that a host with another one is not accepted. -/
theorem parse?_of_colon (hcolon : ':' ∈ host) (hopening : host.head? ≠ some '[')
    (port : List Char) : parse? (host ++ ':' :: port) = none := by
  rw [Option.eq_none_iff_forall_ne_some]
  intro e he
  have hspells := spells_of_parse? he
  generalize htext : host ++ ':' :: port = text at hspells
  cases hspells with
  | plain noColon _ _ portFree =>
      have hcount := congrArg (List.count ':') htext
      have hpos := List.count_pos_iff.mpr hcolon
      simp only [List.count_append, List.count_cons_self, List.count_eq_zero.mpr noColon,
        List.count_eq_zero.mpr portFree] at hcount
      omega
  | bracketed =>
      have hhead := congrArg List.head? htext
      rw [List.head?_append_of_ne_nil _ (List.ne_nil_of_mem hcolon)] at hhead
      exact hopening hhead

/-- Taking an endpoint apart undoes joining a host without brackets to a port without colons, with
brackets where they are needed and also where they are not.  Without them a host with colons is
refused, whatever its port. -/
theorem parse?_join :
    (∀ host port : List Char, '[' ∉ host → ']' ∉ host → ':' ∉ port →
      parse? (join ⟨host, port⟩) = some ⟨host, port⟩ ∧
        parse? ('[' :: host ++ ']' :: ':' :: port) = some ⟨host, port⟩) ∧
    ∀ host port : List Char, ':' ∈ host → host.head? ≠ some '[' →
      parse? (host ++ ':' :: port) = none := by
  refine ⟨?_, fun host port hcolon hopening => parse?_of_colon hcolon hopening port⟩
  intro host port hopening hclosing hport
  exact ⟨parse?_of_spells (spells_join hopening hclosing hport),
    parse?_of_spells (.bracketed hport)⟩

/-- An address with colons is joined in brackets, and nothing is needed of a host or a port to be
joined. -/
theorem parse?_join_address :
    join ⟨"fe80::1".toList, "53".toList⟩ = "[fe80::1]:53".toList ∧
      parse? "[fe80::1]:53".toList = some ⟨"fe80::1".toList, "53".toList⟩ ∧
      parse? "fe80::1:53".toList = none ∧ parse? ":".toList = some ⟨[], []⟩ := by
  have hjoin : join ⟨"fe80::1".toList, "53".toList⟩ = "[fe80::1]:53".toList := by decide
  obtain ⟨hread, -⟩ :=
    parse?_join.1 "fe80::1".toList "53".toList (by decide) (by decide) (by decide)
  obtain ⟨hempty, -⟩ := parse?_join.1 [] [] (by decide) (by decide) (by decide)
  exact ⟨hjoin, hjoin ▸ hread, parse?_join.2 "fe80::1".toList "53".toList (by decide) (by decide),
    hempty⟩

end Endpoint

namespace Server

variable {σ : Type} (h : Host σ) (s : Server) (busy : Bool) (w : World σ) {r : Request}

/-- Without an endpoint the answer is settled before any look-up. -/
theorem exists_refusal {form : List UInt8}
    (hform : ∀ text ∈ Form.field? "endpoint" form, Endpoint.parse? text.toList = none) :
    ∃ x : Exchange σ, x.response.status = 400 ∧ x.world = w ∧
      ∀ h : Host σ, addresses h form w = x := by
  rcases hfield : Form.field? "endpoint" form with _ | text
  · exact ⟨⟨repeatedField "endpoint", w, []⟩, rfl, rfl, fun h => by simp only [addresses, hfield]⟩
  · have hparse := hform text hfield
    exact ⟨complaint 400 "failed to parse endpoint" [("endpoint", .text text)] w, rfl, rfl,
      fun h => by simp only [addresses, hfield, hparse]⟩

/-- The status of an answer by what is known of the host: only one that has addresses is found. -/
def lookupStatus : Except String (List Address) → Nat
  | .ok (_ :: _) => 200
  | _ => 500

/-- Whatever is known of a host, the request for it is not a bad one. -/
theorem lookupStatus_ne (known : Except String (List Address)) : lookupStatus known ≠ 400 := by
  rcases known with cause | _ | ⟨a, rest⟩ <;> simp [lookupStatus]

/-- For an endpoint in its proper form the status depends only on what is known of the host. -/
theorem addresses_status {form : List UInt8} {text : String} {e : Endpoint}
    (hfield : Form.field? "endpoint" form = some text)
    (hparse : Endpoint.parse? text.toList = some e) :
    (addresses h form w).response.status = lookupStatus (h.resolve e.host w.toDevice) := by
  simp only [addresses, hfield, hparse]
  rcases h.resolve e.host w.toDevice with cause | _ | ⟨a, rest⟩ <;> rfl

theorem answer_addresses (hroute : r.route? = some .addresses) :
    (s.answer h busy r w).response.status = (addresses h r.form w).response.status := by
  rw [answer_of_route? h s busy w hroute]
  simp only []
  split <;> rfl

/-- A host that is not looked up has no part in the answer. -/
theorem answer_addresses_congr {h' : Host σ} (hroute : r.route? = some .addresses)
    (hsame : addresses h r.form w = addresses h' r.form w) :
    s.answer h busy r w = s.answer h' busy r w := by
  rw [answer_of_route? h s busy w hroute, answer_of_route? h' s busy w hroute]
  simp only [atRoute, hsame]

/-- The texts that are taken for an endpoint are those that spell it.  A request is answered with
status 400 exactly if it gives no such text; nothing is looked up for it then, since the answer is
the same however hosts are looked up.  If it gives one, the answer is about the host in it. -/
theorem parse?_iff_spells_and_refusal :
    (∀ (text : List Char) (e : Endpoint), Endpoint.parse? text = some e ↔ e.Spells text) ∧
    ∀ (h : Host σ) (s : Server) (busy : Bool) (r : Request) (w : World σ),
      r.route? = some .addresses →
      ((s.answer h busy r w).response.status = 400 ↔
        ∀ text ∈ Form.field? "endpoint" r.form, ∀ e : Endpoint, ¬ e.Spells text.toList) ∧
      ((s.answer h busy r w).response.status = 400 →
        (s.answer h busy r w).world = w ∧
          ∀ resolve : List Char → Device σ → Except String (List Address),
            s.answer { h with resolve := resolve } busy r w = s.answer h busy r w) ∧
      ∀ text ∈ Form.field? "endpoint" r.form, ∀ e : Endpoint, e.Spells text.toList →
        (s.answer h busy r w).response.status = lookupStatus (h.resolve e.host w.toDevice) := by
  have hparse (text : List Char) (e : Endpoint) :
      Endpoint.parse? text = some e ↔ e.Spells text :=
    ⟨Endpoint.spells_of_parse?, Endpoint.parse?_of_spells⟩
  refine ⟨hparse, ?_⟩
  intro h s busy r w hroute
  have hstatus := answer_addresses h s busy w hroute
  have hlooked : ∀ text ∈ Form.field? "endpoint" r.form, ∀ e : Endpoint, e.Spells text.toList →
      (s.answer h busy r w).response.status = lookupStatus (h.resolve e.host w.toDevice) := by
    intro text hfield e hspells
    rw [hstatus, addresses_status h w hfield ((hparse _ e).mpr hspells)]
  have hrefused : (s.answer h busy r w).response.status = 400 →
      ∀ text ∈ Form.field? "endpoint" r.form, ∀ e : Endpoint, ¬ e.Spells text.toList :=
    fun hanswer text hfield e hspells =>
      lookupStatus_ne _ ((hlooked text hfield e hspells).symm.trans hanswer)
  have hsettled (hnone : ∀ text ∈ Form.field? "endpoint" r.form, ∀ e : Endpoint,
      ¬ e.Spells text.toList) := exists_refusal w fun text hfield =>
    Option.eq_none_iff_forall_ne_some.mpr fun e he => hnone text hfield e ((hparse _ e).mp he)
  refine ⟨⟨hrefused, fun hnone => ?_⟩, fun hanswer => ?_, hlooked⟩
  · obtain ⟨x, hx, -, hall⟩ := hsettled hnone
    rw [hstatus, hall, hx]
  · obtain ⟨x, -, hx, hall⟩ := hsettled (hrefused hanswer)
    constructor
    · rw [answer_world, hroute]
      exact (congrArg Exchange.world (hall h)).trans hx
    · exact fun resolve => answer_addresses_congr _ s busy w hroute ((hall _).trans (hall h).symm)

def asking (endpoint : String) : Request :=
  ⟨"GET", "/api/v1/status/dns", ("endpoint=" ++ endpoint).toList, []⟩

def answerKnowing (known : Except String (List Address)) (r : Request) : Exchange Unit :=
  (of .empty ⟨[]⟩ "wlan0").answer { silentHost with resolve := fun _ _ => known } false r
    (.of .empty ())

/-- A host with colons has to stand in brackets. -/
theorem refusal_of_colons :
    (answerKnowing (.ok []) (asking "::1:53")).response.status = 400 ∧
      ∀ known,
        answerKnowing known (asking "::1:53") = answerKnowing (.ok []) (asking "::1:53") := by
  have hroute : (asking "::1:53").route? = some .addresses := by decide
  have hanswer : (answerKnowing (.ok []) (asking "::1:53")).response.status = 400 := by decide
  obtain ⟨-, hsettled, -⟩ := parse?_iff_spells_and_refusal.2
    { silentHost with resolve := fun _ _ => .ok [] } (of .empty ⟨[]⟩ "wlan0") false
    (asking "::1:53") (.of .empty ()) hroute
  exact ⟨hanswer, fun known => (hsettled hanswer).2 fun _ _ => known⟩

/-- A bracket inside a host is not noticed, neither behind the first character of a host that stands
by itself nor between brackets.  A host like that is looked up: the answer depends on what is known
of it. -/
theorem brackets_looked_up :
    (∃ e, Endpoint.parse? "a[b:80".toList = some e ∧ '[' ∈ e.host) ∧
    (∃ e, Endpoint.parse? "[a]]:80".toList = some e ∧ ']' ∈ e.host) ∧
    (answerKnowing (.error "") (asking "[a]]:80")).response.status = 500 ∧
    (answerKnowing (.ok [.short [127, 0, 0, 1]]) (asking "[a]]:80")).response.status = 200 := by
  refine ⟨⟨⟨"a[b".toList, "80".toList⟩, by decide, by decide⟩,
    ⟨⟨"a]".toList, "80".toList⟩, by decide, by decide⟩, by decide, by decide⟩

end Server

end Provision
