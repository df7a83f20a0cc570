import Selenese.Proofs.CharRef.Decode
import Selenese.Proofs.Variables

/-!
# Selenese.Proofs.Variables.Decode

Expanding and decoding a text piece by piece.

* `Variables.expand_append_left` and `Variables.decode_append_left`: what stands before the first
  dollar sign, and the first ampersand, stays as it is.
* `Variables.expand_placeholder`: a placeholder alone becomes the value of its variable.
-/

namespace Selenese.Variables

theorem Cut.prepend {p l : List Char} {ps : List Piece} (hp : '$' ∉ p) (h : Cut l ps) :
    Cut (p ++ l) (p.map .char ++ ps) := by
  induction p with
  | nil => exact h
  | cons c p ih =>
    have hc : c ≠ '$' := fun heq => hp (heq ▸ List.mem_cons_self)
    exact .char (fun _ _ => not_begins_of_ne hc) (ih fun hmem => hp (List.mem_cons_of_mem _ hmem))

theorem expand_append_left (v : Variables) {p : String} (hp : '$' ∉ p.toList) (raw : String) :
    v.expand (p ++ raw) = p ++ v.expand raw := by
  obtain ⟨ps, hcut⟩ := exists_cut raw.toList
  have hboth : Cut (p ++ raw).toList (p.toList.map .char ++ ps) := by
    rw [String.toList_append]
    exact hcut.prepend hp
  rw [expand_of_cut v hboth, expand_of_cut v hcut, List.flatMap_append, flatMap_fill_char, String.ofList_append,
    String.ofList_toList]

theorem decode_append_left (v : Variables) {p : String} (hdollar : '$' ∉ p.toList) (hampersand : '&' ∉ p.toList)
    (raw : String) : v.decode (p ++ raw) = p ++ v.decode raw := by
  rw [decode, expand_append_left v hdollar, CharRef.decode_append_left hampersand, decode]

theorem expand_placeholder (v : Variables) {name : String} (hne : name ≠ "") (hbrace : '\x7d' ∉ name.toList) :
    v.expand ("$\x7b" ++ name ++ "\x7d") = (v.get? name).getD "" := by
  have hraw : ("$\x7b" ++ name ++ "\x7d").toList = '$' :: '\x7b' :: (name.toList ++ '\x7d' :: []) := by
    simp [String.toList_append]
  have hbegins : Begins ("$\x7b" ++ name ++ "\x7d").toList name.toList [] :=
    ⟨hraw, fun h => hne (String.toList_eq_nil_iff.1 h), hbrace⟩
  rw [expand_of_cut v (.placeholder hbegins .nil), List.flatMap_cons, List.flatMap_nil, List.append_nil,
    fill_placeholder, String.ofList_toList, String.ofList_toList]

theorem get?_set (v : Variables) (name value : String) : (v.set name value).get? name = some value := by
  rw [get?, slot?_set, if_pos rfl]
  rfl

end Selenese.Variables
