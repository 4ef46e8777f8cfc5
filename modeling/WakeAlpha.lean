import WakeAlpha.Sapp.Startup
import WakeAlpha.Sapp.Session
import WakeAlpha.Sapp.Fullscreen
import WakeAlpha.Sapp.FrameDuration
import WakeAlpha.Geometry.Vec
import WakeAlpha.Demo.Calls
import WakeAlpha.Demo.Keyboard
import WakeAlpha.Demo.Program
import WakeAlpha.Demo.Brackets
import WakeAlpha.Demo.Presses
import WakeAlpha.Demo.Uniforms
import WakeAlpha.Demo.Screen
import WakeAlpha.Geometry.Triangle
import WakeAlpha.Demo.Picture
import WakeAlpha.Gfx.Handles
import WakeAlpha.Gfx.Stream
import WakeAlpha.Gfx.Append
import WakeAlpha.Gfx.Notify
import WakeAlpha.Gfx.Total
import WakeAlpha.Gfx.Reach
import WakeAlpha.Gfx.Passes
import WakeAlpha.Imgui.Fetch
import WakeAlpha.Imgui.Overlay
import WakeAlpha.Queues.Ring
import WakeAlpha.Sapp.Timing
