import PictureFrame.Basic
import PictureFrame.CommandLine.Arguments
import PictureFrame.CommandLine.Run
import PictureFrame.Display
import PictureFrame.Exchange
import PictureFrame.Files
import PictureFrame.Frame
import PictureFrame.Main
import PictureFrame.Proofs.Basic
import PictureFrame.Proofs.Color.Hex
import PictureFrame.Proofs.CommandLine.Accepted
import PictureFrame.Proofs.CommandLine.Achieved
import PictureFrame.Proofs.CommandLine.Balance
import PictureFrame.Proofs.CommandLine.Clearing
import PictureFrame.Proofs.CommandLine.Exit
import PictureFrame.Proofs.CommandLine.Opening
import PictureFrame.Proofs.CommandLine.Painting
import PictureFrame.Proofs.CommandLine.Push
import PictureFrame.Proofs.CommandLine.Sequence
import PictureFrame.Proofs.Display.Box
import PictureFrame.Proofs.Display.Changes
import PictureFrame.Proofs.Display.Flush
import PictureFrame.Proofs.Display.Grid
import PictureFrame.Proofs.Display.Operations
import PictureFrame.Proofs.Display.Pixels
import PictureFrame.Proofs.Display.Reachable
import PictureFrame.Proofs.Display.Reordering
import PictureFrame.Proofs.Display.Sending
import PictureFrame.Proofs.Display.Storage
import PictureFrame.Proofs.Display.Strokes
import PictureFrame.Proofs.Envelope
import PictureFrame.Proofs.Exchange.Buffers
import PictureFrame.Proofs.Exchange.Length
import PictureFrame.Proofs.Exchange.Protocol
import PictureFrame.Proofs.Exchange.Serial
import PictureFrame.Proofs.Frame
import PictureFrame.Proofs.Frame.Arguments
import PictureFrame.Proofs.Frame.Course
import PictureFrame.Proofs.Frame.Lockstep
import PictureFrame.Proofs.Frame.Region
import PictureFrame.Proofs.Framebuffer
import PictureFrame.Proofs.Framebuffer.Writes
import PictureFrame.Proofs.Image
import PictureFrame.Proofs.Locator.Balance
import PictureFrame.Proofs.Locator.Census
import PictureFrame.Proofs.Locator.Opening
import PictureFrame.Proofs.Locator.Search
import PictureFrame.Proofs.Retry
import PictureFrame.Proofs.Selector
import PictureFrame.Proofs.Session.Agreement
import PictureFrame.Proofs.Session.Announcement
import PictureFrame.Proofs.Session.Coverage
import PictureFrame.Proofs.Session.FirstPaint
import PictureFrame.Proofs.Session.Panel
import PictureFrame.Proofs.Session.Region
import PictureFrame.Proofs.Session.Repetition
import PictureFrame.Proofs.Session.Run
import PictureFrame.Proofs.Session.TopBits
import PictureFrame.Proofs.Session.Traffic
import PictureFrame.Proofs.Session.Wire
import PictureFrame.Proofs.Session.Wraparound
import PictureFrame.Proofs.Settings
import PictureFrame.Proofs.Usb.Dialogue
import PictureFrame.Screen
import PictureFrame.Session
import PictureFrame.Settings
import PictureFrame.Toml.Document
import PictureFrame.Toml.Scalar
import PictureFrame.Usb
import PictureFrame.Usb.Script
