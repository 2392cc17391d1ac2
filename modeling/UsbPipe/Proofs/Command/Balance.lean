/-
The commands and the books.

A command keeps the books balanced for the holds in the hands of others, and it leaves
the table of channels as it was: whatever it found it releases, and the channel it opened
it drops.

* `Balanced.listInterfaces`, `channelIds_listInterfaces`: the books and the table after a
  listing.
* `Balanced.exchangeWith`: the same after an exchange.
-/
import UsbPipe.Command.Basic
import UsbPipe.Proofs.Manager.Closing
import UsbPipe.Proofs.Manager.Opening

namespace UsbPipe

open Usb

namespace Manager

variable {m m' : Manager Bench Instance DeviceKey} {H : List (Hold Instance)} {k : ℕ}
variable {meanwhile : Manager Bench Instance DeviceKey → Manager Bench Instance DeviceKey}

/-! ### Listing -/

lemma Balanced.listInterfaces (h : m.Balanced H k) (filter : Filter) (json : Bool) (out : Sink) :
    (m.listInterfaces filter json out).manager.Balanced H k := by
  have henum := h.enumerate filter
  rw [Manager.listInterfaces]
  rcases he : m.enumerate filter with ⟨_ | found, m₁⟩ <;> rw [he] at henum
  · exact henum
  · exact henum.discard

@[simp] lemma bystanders_listInterfaces (filter : Filter) (json : Bool) (out : Sink) :
    (m.listInterfaces filter json out).manager.bystanders = m.bystanders :=
  (bystanders_scanning m.bystanders).listInterfaces (bystanders_enumerate filter) json out

@[simp] lemma channelIds_listInterfaces (filter : Filter) (json : Bool) (out : Sink) :
    (m.listInterfaces filter json out).manager.channelIds = m.channelIds :=
  channelIds_of_bystanders (bystanders_listInterfaces filter json out)

/-! ### Exchanging -/

/-- Payload out, reply in and the close keep the books and the table. -/
lemma Balanced.converse (h : m.Balanced H k) (c : Opened) (r : Request) (out : Sink) :
    (m.converse c r out).manager.Balanced H k ∧
      (m.converse c r out).manager.channelIds = m.channelIds := by
  have hsame : ∀ {m₁ m₂ : Manager Bench Instance DeviceKey}, m₂.accounts = m₁.accounts →
      m₁.Balanced H k ∧ m₁.channelIds = m.channelIds →
      m₂.Balanced H k ∧ m₂.channelIds = m.channelIds := fun ha h₁ =>
    ⟨h₁.1.congr ha, Eq.trans (congrArg (·.channels.map Channel.id) ha) h₁.2⟩
  exact Frame.converse (P := fun m' => m'.Balanced H k ∧ m'.channelIds = m.channelIds)
    ⟨fun _ _ _ => hsame rfl⟩ (hsame (accounts_write c.id r.payload) ⟨h, rfl⟩)
    (fun _ limit => hsame (accounts_receive c.id limit))
    (fun _ h₁ => ⟨h₁.1.close c.id, (channelIds_close c.id).trans h₁.2⟩) out

/-- An exchange keeps the books, wherever it fails, and leaves no channel behind. -/
theorem Balanced.exchangeWith (h : m.Balanced H k) (hm : OnlyShutdown meanwhile) (r : Request)
    (out : Sink) :
    (m.exchangeWith meanwhile r out).manager.Balanced H k ∧
      (m.exchangeWith meanwhile r out).manager.channelIds = m.channelIds := by
  have henum := h.enumerate r.filter
  have hids := channelIds_of_bystanders (bystanders_enumerate (m := m) r.filter)
  rw [Manager.exchangeWith]
  rcases he : m.enumerate r.filter with ⟨_ | found, m₁⟩ <;> rw [he] at henum hids
  · exact ⟨henum, hids⟩
  · simp only
    cases found.find? r.wants with
    | none =>
        exact ⟨henum.discard, (channelIds_of_bystanders (bystanders_discard found)).trans hids⟩
    | some target =>
        have hopen := henum.openWith hm.accounts_eq target.info
        simp only
        rcases ho : m₁.openWith meanwhile target.info with ⟨_ | c, m₂⟩ <;> rw [ho] at hopen
        · have hids₂ := channelIds_openWith_error hm ho
          exact ⟨hopen.discard,
            (channelIds_of_bystanders (bystanders_discard found)).trans (hids₂.trans hids)⟩
        · -- the new id is on the table until the channel is dropped
          have hids₂ : m₂.channelIds = m.channelIds ++ [c.id] :=
            (channelIds_openWith_ok hm ho).trans (by rw [hids])
          have hconv := (((hopen.discard).setReadTimeout c.id r.readTimeout).setWriteTimeout c.id
            r.writeTimeout).converse c r out
          simp only
          set m₃ := ((m₂.discard found).setReadTimeout c.id r.readTimeout).setWriteTimeout c.id
            r.writeTimeout with hm₃
          have hids₃ : m₃.channelIds = m.channelIds ++ [c.id] := by
            rw [hm₃, channelIds_setWriteTimeout, channelIds_setReadTimeout,
              channelIds_of_bystanders (bystanders_discard found), hids₂]
          have hnew : c.id ∉ m.channelIds := by
            have hnd := hopen.ids_nodup
            rw [hids₂] at hnd
            exact fun hc => (List.nodup_append.mp hnd).2.2 _ hc _ (List.mem_singleton_self _) rfl
          refine ⟨hconv.1.dropChannel c.id, ?_⟩
          rw [channelIds_dropChannel, hconv.2, hids₃, List.filter_append,
            List.filter_cons_of_neg (by simp), List.filter_nil, List.append_nil]
          exact filter_ne_eq_self fun id hid he => hnew (he ▸ hid)

end Manager

end UsbPipe
