import AgentReporting.Config
import AgentReporting.Url

/-! # The address of the Agent

The Agent is reached over HTTP at an explicit address, or else at the configured
one. The address is normalised and kept without trailing slashes.
-/

namespace AgentReporting.Address

def resolve (config : Config) (address : Option String) : Except Fault String := do
  let text := (Config.nonEmpty? address).getD config.agentUrl
  let url ← Url.ofString text
  if (url.scheme != "http" && url.scheme != "https") || url.host.isEmpty then
    throw (.malformedAddress text)
  return String.ofList (Text.trimEndBy (· == '/') url.toText.toList)

end AgentReporting.Address
