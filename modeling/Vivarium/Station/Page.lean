import Vivarium.Text.Lines

/-!
# The page

The page that a browser shows for a station: it draws each picture that it is sent and acknowledges
its round.
-/

namespace Vivarium.Station

def page : String := Text.ofLines [
  "<!doctype html>",
  "<html lang=\"en\">",
  "<head>",
  "  <meta charset=\"utf-8\">",
  "  <title>Darwin Creature World</title>",
  "  <style>",
  "    body \x7b background: #141414; color: #ddd; font-family: monospace; \x7d",
  "    #board \x7b background: #000; image-rendering: pixelated; \x7d",
  "    button \x7b margin-right: 0.5em; \x7d",
  "  </style>",
  "</head>",
  "<body>",
  "  <h1>Darwin Creature World</h1>",
  "  <div>",
  "    <button id=\"start\">start</button>",
  "    <button id=\"stop\">stop</button>",
  "    <button id=\"step\">step</button>",
  "    <button id=\"reset\">reset</button>",
  "    <span id=\"round\"></span>",
  "  </div>",
  "  <canvas id=\"board\" width=\"600\" height=\"600\"></canvas>",
  "  <pre id=\"counts\"></pre>",
  "  <script>",
  "    const CELL = 40;",
  "    const ARROWS = \x7b NORTH: [0, -1], EAST: [1, 0], SOUTH: [0, 1], WEST: [-1, 0] \x7d;",
  "    const canvas = document.getElementById(\"board\");",
  "    const ctx = canvas.getContext(\"2d\");",
  "",
  "    function draw(payload) \x7b",
  "      const world = payload.world;",
  "      canvas.width = world.width * CELL;",
  "      canvas.height = world.height * CELL;",
  "      ctx.fillStyle = \"#000\";",
  "      ctx.fillRect(0, 0, canvas.width, canvas.height);",
  "      ctx.font = `$\x7bCELL * 0.6\x7dpx monospace`;",
  "      ctx.textAlign = \"center\";",
  "      ctx.textBaseline = \"middle\";",
  "      for (const c of payload.creatures) \x7b",
  "        const cx = c.x * CELL + CELL / 2;",
  "        const cy = c.y * CELL + CELL / 2;",
  "        ctx.fillStyle = c.color;",
  "        ctx.fillText(c.glyph, cx, cy);",
  "        const [dx, dy] = ARROWS[c.direction];",
  "        ctx.strokeStyle = c.color;",
  "        ctx.beginPath();",
  "        ctx.moveTo(cx + dx * CELL * 0.3, cy + dy * CELL * 0.3);",
  "        ctx.lineTo(cx + dx * CELL * 0.48, cy + dy * CELL * 0.48);",
  "        ctx.stroke();",
  "      \x7d",
  "      document.getElementById(\"round\").textContent = `round $\x7bpayload.round\x7d`;",
  "      if (payload.metrics) \x7b",
  "        document.getElementById(\"counts\").textContent = JSON.stringify(payload.metrics.species_counts, null, 2);",
  "      \x7d",
  "    \x7d",
  "",
  "    const ws = new WebSocket(`ws://$\x7blocation.host\x7d/ws`);",
  "    ws.onmessage = (event) => \x7b",
  "      const message = JSON.parse(event.data);",
  "      if (message.type === \"snapshot\") \x7b",
  "        draw(message.payload);",
  "        ws.send(JSON.stringify(\x7b type: \"ack\", round: message.round \x7d));",
  "      \x7d",
  "    \x7d;",
  "    for (const action of [\"start\", \"stop\", \"step\", \"reset\"]) \x7b",
  "      document.getElementById(action).onclick = () => fetch(`/api/control/$\x7baction\x7d`, \x7b method: \"POST\" \x7d);",
  "    \x7d",
  "  </script>",
  "</body>",
  "</html>"]

end Vivarium.Station
