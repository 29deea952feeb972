import LoraServer.Go
import LoraServer.Errors
import LoraServer.Fmt
import LoraServer.Api.Errors
import LoraServer.Gw
import LoraServer.Join.Basic
import LoraServer.Join.Stages
import LoraServer.Join.Handle
import LoraServer.Join.Failures
import LoraServer.Join.Frames
import LoraServer.Join.AckRace
import LoraServer.Uplink.Server
import LoraServer.Uplink.Shutdown
import LoraServer.Uplink.Collect
