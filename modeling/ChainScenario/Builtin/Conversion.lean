import ChainScenario.Builtin.Function

/-!
# Calls with tokens as built-in functions

A call that comes with tokens is sent as the built-in function that moves them. The function that
was called and its arguments follow the arguments of the built-in function.
-/
namespace ChainScenario.Builtin

open Token

/-- The built-in function that moves the tokens of a call, where it is called and with what. -/
def conversionTarget (call : Call) : Function × Bytes × List Bytes :=
  let caller := call.input.caller
  let several : Function × Bytes × List Bytes :=
    (.multiTransfer, caller,
      call.recipient :: nonceBytes (UInt64.ofNat call.input.transfers.length) ::
        call.input.transfers.flatMap fun transfer =>
          [transfer.token, nonceBytes transfer.nonce, Bytes.ofNat transfer.value])
  match call.input.transfers with
  | [transfer] =>
    -- currency among tokens is only known to the function that moves several
    if transfer.token = currency then several
    else if transfer.nonce = 0 then
      (.tokenTransfer, call.recipient, [transfer.token, Bytes.ofNat transfer.value])
    else
      (.instanceTransfer, caller, [transfer.token, nonceBytes transfer.nonce,
        Bytes.ofNat transfer.value, call.recipient])
  | _ => several

/-- The call as the built-in function that moves its tokens; a call without tokens stays as it is. -/
def convert (call : Call) : Call :=
  if call.input.transfers.isEmpty then call
  else
    let (function, recipient, arguments) := conversionTarget call
    let onward := if call.function.isEmpty then []
      else Utf8.ofString call.function :: call.input.arguments
    ⟨{ call.input with value := 0, arguments := arguments ++ onward }, recipient, function.name⟩

end ChainScenario.Builtin
