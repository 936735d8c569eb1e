/-!
# Faces and vehicles

Emoji of faces and gestures, of clocks and devices, and of traffic.
-/

namespace TransformPreset

/-- Faces, gestures, devices and vehicles by name. -/
def faceEmoji : List (String × String) :=
  [
    ("1234", "🔢"), ("abc", "🔤"), ("abcd", "🔡"), ("aerial_tramway", "🚡"), ("airplane_arrival", "🛬"),
    ("airplane_arriving", "🛬"), ("airplane_departure", "🛫"), ("ambulance", "🚑"), ("angry", "😠"),
    ("angry_face", "😠"), ("anguished", "😧"), ("anguished_face", "😧"),
    ("anxious_face_with_sweat", "😰"), ("arrow_down_small", "🔽"), ("arrow_up_small", "🔼"),
    ("arrows_clockwise", "🔃"), ("arrows_counterclockwise", "🔄"), ("articulated_lorry", "🚛"),
    ("astonished", "😲"), ("astonished_face", "😲"), ("auto_rickshaw", "🛺"), ("automobile", "🚗"),
    ("baby_symbol", "🚼"), ("back", "🔙"), ("back_arrow", "🔙"), ("baggage_claim", "🛄"),
    ("ballot_box_with_ballot", "🗳"), ("bath", "🛀"), ("bathtub", "🛁"), ("battery", "🔋"),
    ("beaming_face_with_smiling_eyes", "😁"), ("bed", "🛏"), ("beginner", "🔰"), ("bell", "🔔"),
    ("bell_with_slash", "🔕"), ("bellhop_bell", "🛎"), ("bicycle", "🚲"), ("bicyclist", "🚴"),
    ("bike", "🚲"), ("black_heart", "🖤"), ("black_square_button", "🔲"), ("blue_car", "🚙"),
    ("blue_circle", "🔵"), ("blue_square", "🟦"), ("blush", "😊"), ("bookmark", "🔖"), ("bow", "🙇"),
    ("bright_button", "🔆"), ("brown_circle", "🟤"), ("brown_square", "🟫"), ("bullet_train", "🚅"),
    ("bullettrain_front", "🚅"), ("bullettrain_side", "🚄"), ("bus", "🚌"), ("bus_stop", "🚏"),
    ("busstop", "🚏"), ("candle", "🕯"), ("canoe", "🛶"), ("capital_abcd", "🔠"), ("car", "🚗"),
    ("card_file_box", "🗃"), ("card_index_dividers", "🗂"), ("cat_face_with_tears_of_joy", "😹"),
    ("cat_face_with_wry_smile", "😼"), ("children_crossing", "🚸"), ("cigarette", "🚬"),
    ("clamp", "🗜"), ("clock1", "🕐"), ("clock10", "🕙"), ("clock1030", "🕥"), ("clock11", "🕚"),
    ("clock1130", "🕦"), ("clock12", "🕛"), ("clock1230", "🕧"), ("clock130", "🕜"), ("clock2", "🕑"),
    ("clock230", "🕝"), ("clock3", "🕒"), ("clock330", "🕞"), ("clock4", "🕓"), ("clock430", "🕟"),
    ("clock5", "🕔"), ("clock530", "🕠"), ("clock6", "🕕"), ("clock630", "🕡"), ("clock7", "🕖"),
    ("clock730", "🕢"), ("clock8", "🕗"), ("clock830", "🕣"), ("clock9", "🕘"), ("clock930", "🕤"),
    ("clockwise_vertical_arrows", "🔃"), ("closed_lock_with_key", "🔐"), ("cold_sweat", "😰"),
    ("compression", "🗜"), ("computer_mouse", "🖱"), ("confounded", "😖"), ("confounded_face", "😖"),
    ("confused", "😕"), ("confused_face", "😕"), ("construction", "🚧"), ("couch_and_lamp", "🛋"),
    ("counterclockwise_arrows_button", "🔄"), ("crayon", "🖍"), ("cry", "😢"),
    ("crying_cat_face", "😿"), ("crying_face", "😢"), ("crystal_ball", "🔮"), ("customs", "🛃"),
    ("dagger", "🗡"), ("dagger_knife", "🗡"), ("dark_sunglasses", "🕶"), ("delivery_truck", "🚚"),
    ("desktop_computer", "🖥"), ("detective", "🕵"), ("dim_button", "🔅"), ("disappointed", "😞"),
    ("disappointed_face", "😞"), ("disappointed_relieved", "😥"), ("dizzy_face", "😵"),
    ("do_not_litter", "🚯"), ("door", "🚪"), ("dotted_six-pointed_star", "🔯"), ("dove", "🕊"),
    ("dove_of_peace", "🕊"), ("downcast_face_with_sweat", "😓"), ("downwards_button", "🔽"),
    ("eight-thirty", "🕣"), ("eight_o’clock", "🕗"), ("electric_plug", "🔌"), ("eleven-thirty", "🕦"),
    ("eleven_o’clock", "🕚"), ("end", "🔚"), ("end_arrow", "🔚"), ("expressionless", "😑"),
    ("expressionless_face", "😑"), ("face_blowing_a_kiss", "😘"), ("face_savoring_food", "😋"),
    ("face_screaming_in_fear", "😱"), ("face_with_medical_mask", "😷"), ("face_with_open_mouth", "😮"),
    ("face_with_rolling_eyes", "🙄"), ("face_with_steam_from_nose", "😤"),
    ("face_with_tears_of_joy", "😂"), ("face_with_tongue", "😛"), ("face_without_mouth", "😶"),
    ("fearful", "😨"), ("fearful_face", "😨"), ("file_cabinet", "🗄"), ("fire", "🔥"),
    ("fire_engine", "🚒"), ("five-thirty", "🕠"), ("five_o’clock", "🕔"), ("flashlight", "🔦"),
    ("flushed", "😳"), ("flushed_face", "😳"), ("flying_saucer", "🛸"), ("folded_hands", "🙏"),
    ("fountain_pen", "🖋"), ("four-thirty", "🕟"), ("four_o’clock", "🕓"), ("frame_with_picture", "🖼"),
    ("framed_picture", "🖼"), ("frowning", "😦"), ("frowning_face_with_open_mouth", "😦"),
    ("green_circle", "🟢"), ("green_square", "🟩"), ("grimacing", "😬"), ("grimacing_face", "😬"),
    ("grin", "😁"), ("grinning", "😀"), ("grinning_cat_face", "😺"),
    ("grinning_cat_face_with_smiling_eyes", "😸"), ("grinning_face", "😀"),
    ("grinning_face_with_big_eyes", "😃"), ("grinning_face_with_smiling_eyes", "😄"),
    ("grinning_face_with_sweat", "😅"), ("grinning_squinting_face", "😆"), ("gun", "🔫"),
    ("hammer", "🔨"), ("hammer_and_wrench", "🛠"), ("hand_with_fingers_splayed", "🖐"),
    ("hear-no-evil_monkey", "🙉"), ("hear_no_evil", "🙉"), ("heart_eyes", "😍"),
    ("heart_eyes_cat", "😻"), ("helicopter", "🚁"), ("high-speed_train", "🚄"),
    ("high_brightness", "🔆"), ("hindu_temple", "🛕"), ("hocho", "🔪"), ("hole", "🕳"),
    ("horizontal_traffic_light", "🚥"), ("hushed", "😯"), ("hushed_face", "😯"), ("innocent", "😇"),
    ("input_latin_letters", "🔤"), ("input_latin_lowercase", "🔡"), ("input_latin_uppercase", "🔠"),
    ("input_numbers", "🔢"), ("input_symbols", "🔣"), ("japan", "🗾"),
    ("japanese_symbol_for_beginner", "🔰"), ("joy", "😂"), ("joy_cat", "😹"), ("joystick", "🕹"),
    ("kaaba", "🕋"), ("key", "🔑"), ("keycap_10", "🔟"), ("kick_scooter", "🛴"), ("kissing", "😗"),
    ("kissing_cat", "😽"), ("kissing_cat_face", "😽"), ("kissing_closed_eyes", "😚"),
    ("kissing_face", "😗"), ("kissing_face_with_closed_eyes", "😚"),
    ("kissing_face_with_smiling_eyes", "😙"), ("kissing_heart", "😘"), ("kissing_smiling_eyes", "😙"),
    ("kitchen_knife", "🔪"), ("knife", "🔪"), ("large_blue_circle", "🔵"), ("large_blue_diamond", "🔷"),
    ("large_orange_diamond", "🔶"), ("laughing", "😆"), ("left_luggage", "🛅"),
    ("left_speech_bubble", "🗨"), ("light_rail", "🚈"), ("link", "🔗"), ("linked_paperclips", "🖇"),
    ("litter_in_bin_sign", "🚮"), ("lock", "🔒"), ("lock_with_ink_pen", "🔏"), ("locked", "🔒"),
    ("locked_with_key", "🔐"), ("locked_with_pen", "🔏"), ("locomotive", "🚂"), ("loud_sound", "🔊"),
    ("loudly_crying_face", "😭"), ("low_brightness", "🔅"), ("lower_left_ballpoint_pen", "🖊"),
    ("lower_left_crayon", "🖍"), ("lower_left_fountain_pen", "🖋"), ("lower_left_paintbrush", "🖌"),
    ("mag", "🔍"), ("mag_right", "🔎"), ("magnifying_glass_tilted_left", "🔍"),
    ("magnifying_glass_tilted_right", "🔎"), ("man_dancing", "🕺"),
    ("man_in_business_suit_levitating", "🕴"), ("man_in_suit_levitating", "🕴"),
    ("mantelpiece_clock", "🕰"), ("map_of_japan", "🗾"), ("mask", "😷"), ("menorah", "🕎"),
    ("menorah_with_nine_branches", "🕎"), ("mens", "🚹"), ("men’s_room", "🚹"), ("metro", "🚇"),
    ("microscope", "🔬"), ("middle_finger", "🖕"), ("minibus", "🚐"), ("moai", "🗿"), ("monorail", "🚝"),
    ("mosque", "🕌"), ("motor_boat", "🛥"), ("motor_scooter", "🛵"), ("motorway", "🛣"),
    ("mount_fuji", "🗻"), ("mountain_bicyclist", "🚵"), ("mountain_cableway", "🚠"),
    ("mountain_railway", "🚞"), ("moyai", "🗿"), ("mute", "🔇"), ("muted_speaker", "🔇"),
    ("neutral_face", "😐"), ("nine-thirty", "🕤"), ("nine_o’clock", "🕘"), ("no_bell", "🔕"),
    ("no_bicycles", "🚳"), ("no_entry_sign", "🚫"), ("no_good", "🙅"), ("no_littering", "🚯"),
    ("no_mouth", "😶"), ("no_one_under_eighteen", "🔞"), ("no_pedestrians", "🚷"), ("no_smoking", "🚭"),
    ("non-potable_water", "🚱"), ("non__potable_water", "🚱"), ("nut_and_bolt", "🔩"),
    ("oil_drum", "🛢"), ("ok_woman", "🙆"), ("old_key", "🗝"), ("om", "🕉"), ("om_symbol", "🕉"),
    ("on", "🔛"), ("on!_arrow", "🔛"), ("oncoming_automobile", "🚘"), ("oncoming_bus", "🚍"),
    ("oncoming_police_car", "🚔"), ("oncoming_taxi", "🚖"), ("one-thirty", "🕜"), ("one_o’clock", "🕐"),
    ("open_mouth", "😮"), ("orange_circle", "🟠"), ("orange_square", "🟧"), ("paintbrush", "🖌"),
    ("passenger_ship", "🛳"), ("passport_control", "🛂"), ("pen", "🖊"), ("pensive", "😔"),
    ("pensive_face", "😔"), ("persevere", "😣"), ("persevering_face", "😣"), ("person_biking", "🚴"),
    ("person_bowing", "🙇"), ("person_frowning", "🙍"), ("person_gesturing_no", "🙅"),
    ("person_gesturing_ok", "🙆"), ("person_in_bed", "🛌"), ("person_mountain_biking", "🚵"),
    ("person_pouting", "🙎"), ("person_raising_hand", "🙋"), ("person_rowing_boat", "🚣"),
    ("person_taking_bath", "🛀"), ("person_walking", "🚶"), ("person_with_pouting_face", "🙎"),
    ("pistol", "🔫"), ("place_of_worship", "🛐"), ("police_car", "🚓"), ("police_car_light", "🚨"),
    ("potable_water", "🚰"), ("pouting_cat", "😾"), ("pouting_cat_face", "😾"), ("pouting_face", "😡"),
    ("pray", "🙏"), ("printer", "🖨"), ("prohibited", "🚫"), ("purple_circle", "🟣"),
    ("purple_square", "🟪"), ("put_litter_in_its_place", "🚮"), ("radio_button", "🔘"), ("rage", "😡"),
    ("railway_car", "🚃"), ("railway_track", "🛤"), ("raised_hand_with_fingers_splayed", "🖐"),
    ("raised_hand_with_part_between_middle_and_ring_fingers", "🖖"), ("raised_hands", "🙌"),
    ("raising_hand", "🙋"), ("raising_hands", "🙌"), ("red_car", "🚗"), ("red_circle", "🔴"),
    ("red_square", "🟥"), ("red_triangle_pointed_down", "🔻"), ("red_triangle_pointed_up", "🔺"),
    ("relieved", "😌"), ("relieved_face", "😌"), ("repeat", "🔁"), ("repeat_button", "🔁"),
    ("repeat_one", "🔂"), ("repeat_single_button", "🔂"), ("restroom", "🚻"),
    ("reversed_hand_with_middle_finger_extended", "🖕"), ("right_anger_bubble", "🗯"),
    ("rocket", "🚀"), ("rolled-up_newspaper", "🗞"), ("rolled__up_newspaper", "🗞"),
    ("rotating_light", "🚨"), ("rowboat", "🚣"), ("sad_but_relieved_face", "😥"), ("satisfied", "😆"),
    ("scream", "😱"), ("scream_cat", "🙀"), ("see-no-evil_monkey", "🙈"), ("see_no_evil", "🙈"),
    ("seven-thirty", "🕢"), ("seven_o’clock", "🕖"), ("shield", "🛡"), ("ship", "🚢"),
    ("shopping_bags", "🛍"), ("shopping_cart", "🛒"), ("shower", "🚿"), ("shuffle_tracks_button", "🔀"),
    ("six-thirty", "🕡"), ("six_o’clock", "🕕"), ("six_pointed_star", "🔯"), ("skateboard", "🛹"),
    ("sled", "🛷"), ("sleeping", "😴"), ("sleeping_accommodation", "🛌"), ("sleeping_face", "😴"),
    ("sleepy", "😪"), ("sleepy_face", "😪"), ("sleuth_or_spy", "🕵"), ("slightly_frowning_face", "🙁"),
    ("slightly_smiling_face", "🙂"), ("small_airplane", "🛩"), ("small_blue_diamond", "🔹"),
    ("small_orange_diamond", "🔸"), ("small_red_triangle", "🔺"), ("small_red_triangle_down", "🔻"),
    ("smile", "😄"), ("smile_cat", "😸"), ("smiley", "😃"), ("smiley_cat", "😺"),
    ("smiling_cat_face_with_heart-eyes", "😻"), ("smiling_face_with_halo", "😇"),
    ("smiling_face_with_heart-eyes", "😍"), ("smiling_face_with_horns", "😈"),
    ("smiling_face_with_smiling_eyes", "😊"), ("smiling_face_with_sunglasses", "😎"),
    ("smiling_imp", "😈"), ("smirk", "😏"), ("smirk_cat", "😼"), ("smirking_face", "😏"),
    ("smoking", "🚬"), ("sob", "😭"), ("soon", "🔜"), ("soon_arrow", "🔜"), ("sound", "🔉"),
    ("speak-no-evil_monkey", "🙊"), ("speak_no_evil", "🙊"), ("speaker", "🔈"),
    ("speaker_high_volume", "🔊"), ("speaker_low_volume", "🔈"), ("speaker_medium_volume", "🔉"),
    ("speaking_head", "🗣"), ("speaking_head_in_silhouette", "🗣"), ("speedboat", "🚤"),
    ("spider", "🕷"), ("spider_web", "🕸"), ("spiral_calendar", "🗓"), ("spiral_calendar_pad", "🗓"),
    ("spiral_note_pad", "🗒"), ("spiral_notepad", "🗒"), ("sport_utility_vehicle", "🚙"),
    ("squinting_face_with_tongue", "😝"), ("station", "🚉"), ("statue_of_liberty", "🗽"),
    ("steam_locomotive", "🚂"), ("stop_sign", "🛑"), ("stuck_out_tongue", "😛"),
    ("stuck_out_tongue_closed_eyes", "😝"), ("stuck_out_tongue_winking_eye", "😜"),
    ("sunglasses", "😎"), ("suspension_railway", "🚟"), ("sweat", "😓"), ("sweat_smile", "😅"),
    ("symbols", "🔣"), ("synagogue", "🕍"), ("taxi", "🚕"), ("telescope", "🔭"), ("ten", "🔟"),
    ("ten-thirty", "🕥"), ("ten_o’clock", "🕙"), ("three-thirty", "🕞"), ("three_button_mouse", "🖱"),
    ("three_o’clock", "🕒"), ("tired_face", "😫"), ("toilet", "🚽"), ("tokyo_tower", "🗼"),
    ("top", "🔝"), ("top_arrow", "🔝"), ("trackball", "🖲"), ("tractor", "🚜"), ("traffic_light", "🚥"),
    ("train", "🚋"), ("train2", "🚆"), ("tram", "🚊"), ("tram_car", "🚋"), ("triangular_flag", "🚩"),
    ("triangular_flag_on_post", "🚩"), ("trident", "🔱"), ("trident_emblem", "🔱"), ("triumph", "😤"),
    ("trolleybus", "🚎"), ("truck", "🚚"), ("twelve-thirty", "🕧"), ("twelve_o’clock", "🕛"),
    ("twisted_rightwards_arrows", "🔀"), ("two-thirty", "🕝"), ("two_o’clock", "🕑"),
    ("unamused", "😒"), ("unamused_face", "😒"), ("underage", "🔞"), ("unlock", "🔓"),
    ("unlocked", "🔓"), ("upside-down_face", "🙃"), ("upside__down_face", "🙃"),
    ("upwards_button", "🔼"), ("vertical_traffic_light", "🚦"), ("vulcan_salute", "🖖"),
    ("walking", "🚶"), ("wastebasket", "🗑"), ("water_closet", "🚾"), ("wc", "🚾"), ("weary", "😩"),
    ("weary_cat_face", "🙀"), ("weary_face", "😩"), ("white_square_button", "🔳"), ("wink", "😉"),
    ("winking_face", "😉"), ("winking_face_with_tongue", "😜"), ("womens", "🚺"),
    ("women’s_room", "🚺"), ("world_map", "🗺"), ("worried", "😟"), ("worried_face", "😟"),
    ("wrench", "🔧"), ("yellow_circle", "🟡"), ("yellow_square", "🟨"), ("yum", "😋")
  ]

end TransformPreset
