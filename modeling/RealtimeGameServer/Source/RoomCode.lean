import RealtimeGameServer.Source.HttpSchemas
import RealtimeGameServer.Source.LobbySteps

/-!
# Room codes

Source: shared/utils/room-code.ts. `randomInt(alphabet.length)` draws a place of the
alphabet for each character of a code. A code is its own upper case, and whoever types it
in lower case and with blanks around it gets it through `joinRoomSchema`.
-/
namespace RealtimeGameServer.Source
open Gateway (utf16Length)

def roomCodeAlphabet : List Char := "ABCDEFGHJKLMNPQRSTUVWXYZ23456789".toList

/-- `generateRoomCode(length)`; `randomInt` is what is drawn in each turn of the loop. -/
def generateRoomCode (randomInt : Nat → Fin roomCodeAlphabet.length) : (length : Nat) → String
  | 0 => ""
  | i + 1 => (generateRoomCode randomInt i).push (roomCodeAlphabet.get (randomInt i))

/-- A string that `generateRoomCode()` can return. -/
def IsRoomCode (code : String) : Prop := ∃ randomInt, code = generateRoomCode randomInt 6

theorem mem_generateRoomCode {randomInt : Nat → Fin roomCodeAlphabet.length} {length : Nat}
    {c : Char} (h : c ∈ (generateRoomCode randomInt length).toList) : c ∈ roomCodeAlphabet := by
  induction length with
  | zero => cases h
  | succ i ih =>
    rw [generateRoomCode, String.toList_push, List.mem_append, List.mem_singleton] at h
    rcases h with h | rfl
    · exact ih h
    · exact List.get_mem _ _

theorem length_generateRoomCode (randomInt : Nat → Fin roomCodeAlphabet.length) (length : Nat) :
    (generateRoomCode randomInt length).toList.length = length := by
  induction length with
  | zero => rfl
  | succ i ih =>
    rw [generateRoomCode, String.toList_push, List.length_append, ih, List.length_singleton]

theorem ascii_of_mem {c : Char} (h : c ∈ roomCodeAlphabet) : isAscii c := by
  have hall : roomCodeAlphabet.all isAscii := by decide
  exact List.all_eq_true.mp hall c h

theorem toUpper_of_mem {c : Char} (h : c ∈ roomCodeAlphabet) : c.toUpper = c := by
  have hall : roomCodeAlphabet.all fun c => c.toUpper = c := by decide
  exact of_decide_eq_true (List.all_eq_true.mp hall c h)

theorem IsRoomCode.toUpperCase {code : String} (h : IsRoomCode code) : toUpperCase code = code := by
  obtain ⟨randomInt, rfl⟩ := h
  rw [toUpperCase_of_ascii fun c hc => ascii_of_mem (mem_generateRoomCode hc),
    List.map_congr_left fun c hc => toUpper_of_mem (mem_generateRoomCode hc), List.map_id',
    String.ofList_toList]

/-- An ASCII spelling of a code has the length of a code. -/
theorem IsRoomCode.utf16Length {code spelled : String} (h : IsRoomCode code)
    (hascii : ∀ c ∈ spelled.toList, isAscii c) (hspells : Source.toUpperCase spelled = code) :
    utf16Length spelled = 6 := by
  obtain ⟨randomInt, rfl⟩ := h
  have hchars : spelled.toList.map Char.toUpper = (generateRoomCode randomInt 6).toList := by
    rw [← hspells, toUpperCase_of_ascii hascii, String.toList_ofList]
  have hone : ∀ c ∈ spelled.toList, (if c.val < 0x10000 then 1 else 2) = 1 := by
    intro c hc
    have hlt : c.val < 0x80 := of_decide_eq_true (hascii c hc)
    exact if_pos (UInt32.lt_trans hlt (by decide))
  have hlength := congrArg List.length hchars
  rw [List.length_map, length_generateRoomCode] at hlength
  rw [Gateway.utf16Length, List.map_congr_left hone, List.map_const', hlength]
  rfl

/-- A code typed in ASCII gets through the schema. -/
theorem IsRoomCode.joinRoomSchema {code typed : String} (h : IsRoomCode code) {body : Body}
    (hbody : stringField body "code" = some typed) (hascii : ∀ c ∈ (trim typed).toList, isAscii c)
    (hspells : Source.toUpperCase (trim typed) = code) : joinRoomSchema body = some code := by
  have hlength : lengthIn 4 8 (trim typed) = true := by
    rw [lengthIn_iff, h.utf16Length hascii hspells]
    decide
  rw [Source.joinRoomSchema, trimmedField, hbody, Option.map_some, Option.filter_some, if_pos hlength,
    Option.map_some, hspells]

end RealtimeGameServer.Source
